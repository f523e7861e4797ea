import ReplyRules.Proofs.Matching.Filter

/-!
Laws of globs.  A pattern in two pieces is a glob of the texts in two pieces, one for each
(`glob_append`).  A star alone is a glob of every text, so a star in front of a pattern, behind it, or at
both ends lets the pattern cover a piece at the end of the text, at its beginning, or anywhere in it.  A
pattern without stars is a glob of itself only (`glob_iff_eq`).
-/

namespace ReplyRules

variable {pattern text : List Char}

/-- A star takes some of the text, and the rest of the pattern has to cover what is left. -/
theorem glob_star_iff :
    glob ('*' :: pattern) text = true ↔
      ∃ taken rest, text = taken ++ rest ∧ glob pattern rest = true := by
  rw [glob_star]
  constructor
  · rintro ⟨skip, -, h⟩
    exact ⟨text.take skip, text.drop skip, (List.take_append_drop skip text).symm, h⟩
  · rintro ⟨taken, rest, rfl, h⟩
    refine ⟨taken.length, ?_, ?_⟩
    · rw [List.length_append]
      exact Nat.le_add_right _ _
    · rwa [List.drop_left]

/-- **Pieces of a pattern cover pieces of a text.** -/
theorem glob_append (pattern pattern' text : List Char) :
    glob (pattern ++ pattern') text = true ↔
      ∃ front back, text = front ++ back ∧ glob pattern front = true ∧ glob pattern' back = true := by
  induction pattern generalizing text with
  | nil =>
    constructor
    · intro h
      exact ⟨[], text, rfl, rfl, h⟩
    · rintro ⟨front, back, rfl, hfront, hback⟩
      obtain rfl := List.isEmpty_iff.mp hfront
      exact hback
  | cons c pattern ih =>
    rw [List.cons_append]
    by_cases hc : c = '*'
    · -- what the star takes belongs to the front piece
      subst hc
      simp only [glob_star_iff, ih]
      constructor
      · rintro ⟨taken, _, rfl, front, back, rfl, hfront, hback⟩
        exact ⟨taken ++ front, back, (List.append_assoc _ _ _).symm, ⟨taken, front, rfl, hfront⟩, hback⟩
      · rintro ⟨_, back, rfl, ⟨taken, front, rfl, hfront⟩, hback⟩
        exact ⟨taken, front ++ back, List.append_assoc _ _ _, front, back, rfl, hfront, hback⟩
    · simp only [glob_char hc, ih]
      constructor
      · rintro ⟨_, rfl, front, back, rfl, hfront, hback⟩
        exact ⟨c :: front, back, rfl, ⟨front, rfl, hfront⟩, hback⟩
      · rintro ⟨_, back, rfl, ⟨front, rfl, hfront⟩, hback⟩
        exact ⟨front ++ back, rfl, front, back, rfl, hfront, hback⟩

/-- A piece of a pattern covers a piece of the text. -/
theorem exists_glob_of_piece {piece : List Char} (hpiece : piece <:+: pattern)
    (h : glob pattern text = true) : ∃ part, part <:+: text ∧ glob piece part = true := by
  obtain ⟨before, behind, rfl⟩ := hpiece
  obtain ⟨front, back, rfl, hfront, -⟩ := (glob_append _ _ _).mp h
  obtain ⟨taken, part, rfl, -, hpart⟩ := (glob_append _ _ _).mp hfront
  exact ⟨part, ⟨taken, back, rfl⟩, hpart⟩

theorem glob_star_alone (text : List Char) : glob ['*'] text = true :=
  glob_star_iff.mpr ⟨text, [], (List.append_nil text).symm, rfl⟩

/-! ### Stars at the ends -/

/-- With a star behind it, a pattern has to cover a beginning of the text. -/
theorem glob_concat_star :
    glob (pattern ++ ['*']) text = true ↔ ∃ part, part <+: text ∧ glob pattern part = true := by
  rw [glob_append]
  constructor
  · rintro ⟨part, rest, rfl, hpart, -⟩
    exact ⟨part, List.prefix_append part rest, hpart⟩
  · rintro ⟨part, ⟨rest, rfl⟩, hpart⟩
    exact ⟨part, rest, rfl, hpart, glob_star_alone rest⟩

/-- With a star before it, a pattern has to cover an end of the text. -/
theorem glob_cons_star :
    glob ('*' :: pattern) text = true ↔ ∃ part, part <:+ text ∧ glob pattern part = true := by
  rw [glob_star_iff]
  constructor
  · rintro ⟨taken, part, rfl, hpart⟩
    exact ⟨part, List.suffix_append taken part, hpart⟩
  · rintro ⟨part, ⟨taken, rfl⟩, hpart⟩
    exact ⟨taken, part, rfl, hpart⟩

/-- Between two stars, a pattern has to cover a piece of the text. -/
theorem glob_between_stars :
    glob ('*' :: pattern ++ ['*']) text = true ↔ ∃ part, part <:+: text ∧ glob pattern part = true := by
  rw [List.cons_append, glob_cons_star]
  simp only [glob_concat_star]
  -- a piece is a beginning of an end
  constructor
  · rintro ⟨_, ⟨before, rfl⟩, part, ⟨behind, rfl⟩, hpart⟩
    exact ⟨part, ⟨before, behind, List.append_assoc _ _ _⟩, hpart⟩
  · rintro ⟨part, ⟨before, behind, rfl⟩, hpart⟩
    exact ⟨part ++ behind, ⟨before, (List.append_assoc _ _ _).symm⟩, part, ⟨behind, rfl⟩, hpart⟩

/-! ### Patterns without stars -/

/-- **A pattern without stars is a glob of itself only.** -/
theorem glob_iff_eq (h : '*' ∉ pattern) : glob pattern text = true ↔ text = pattern := by
  induction pattern generalizing text with
  | nil => exact List.isEmpty_iff
  | cons c pattern ih =>
    obtain ⟨hc, hpattern⟩ : '*' ≠ c ∧ '*' ∉ pattern := by rwa [List.mem_cons, not_or] at h
    rw [glob_char hc.symm]
    simp only [ih hpattern]
    constructor
    · rintro ⟨_, rfl, rfl⟩
      rfl
    · rintro rfl
      exact ⟨pattern, rfl, rfl⟩

end ReplyRules
