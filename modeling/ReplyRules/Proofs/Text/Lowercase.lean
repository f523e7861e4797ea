import ReplyRules.Text.Lowercase
import ReplyRules.Text.Basic

/-!
Lower case and pieces of a text.  Whether a capital sigma becomes a final one depends on what stands around
it, so a piece of a text need not have the same lower-case form in the text as by itself.  The form that it has
between two other texts is `lowerBetween`, and the lower-case form of a text in three pieces is put together
from such forms (`lowerFrom_append`).

A piece has in the text the form that it has by itself if and only if each of its capital sigmas stands at the
end of a word in both or in neither (`lowerBetween_eq_iff`); then its lower-case form is found in that of the
text (`contains_lower_of_sigmasAgree`).

Main result: a text is found in all texts that it is a piece of, when both are lowered, if and only if what
stands around it has no say in how its capital sigmas are lowered (`forall_contains_lower_iff`).
-/

namespace ReplyRules.Text

variable {before before' part behind behind' : List Char} {c : Char}

/-! ### Forms between other texts -/

/-- Whether a capital sigma between the two texts stands at the end of a word; `before` holds the characters
in front of it, the nearest first. -/
def endsWord (before behind : List Char) : Bool := startsCased before && !startsCased behind

/-- The lower-case form of a character between two texts. -/
def lowerCharBetween (before : List Char) (c : Char) (behind : List Char) : List Char :=
  if c == 'Σ' then if endsWord before behind then ['ς'] else ['σ'] else lowerChar c

/-- The lower-case form of a part of a text, between `before`, the nearest character first, and `behind`. -/
def lowerBetween (before : List Char) : List Char → List Char → List Char
  | [], _ => []
  | c :: part, behind =>
    lowerCharBetween before c (part ++ behind) ++ lowerBetween (c :: before) part behind

/-- A text in two pieces: the first one is lowered in front of the second, and the second behind the first. -/
theorem lowerFrom_append (before part behind : List Char) :
    lowerFrom before (part ++ behind) =
      lowerBetween before part behind ++ lowerFrom (part.reverse ++ before) behind := by
  induction part generalizing before with
  | nil => rfl
  | cons c part ih =>
    rw [List.cons_append, lowerFrom, ih, lowerBetween, List.reverse_cons, List.append_assoc,
      List.append_assoc]
    rfl

theorem lowerFrom_eq_lowerBetween (before part : List Char) :
    lowerFrom before part = lowerBetween before part [] := by
  have h := lowerFrom_append before part []
  rwa [List.append_nil, lowerFrom, List.append_nil] at h

/-! ### How long a form is -/

/-- Whatever stands around a character, its form is as long. -/
theorem length_lowerCharBetween :
    (lowerCharBetween before c behind).length = (lowerCharBetween before' c behind').length := by
  unfold lowerCharBetween
  split
  · split <;> split <;> rfl
  · rfl

theorem length_lowerBetween :
    (lowerBetween before part behind).length = (lowerBetween before' part behind').length := by
  induction part generalizing before before' with
  | nil => rfl
  | cons c part ih =>
    rw [lowerBetween, lowerBetween, List.length_append, List.length_append, length_lowerCharBetween, ih]

/-- The form of a text by itself is as long as the one that it has between two others. -/
theorem length_lowerFrom : (lowerFrom [] part).length = (lowerBetween before part behind).length := by
  rw [lowerFrom_eq_lowerBetween, length_lowerBetween]

theorem lowerChar_ne_nil : lowerChar c ≠ [] := by
  unfold lowerChar
  repeat' split
  all_goals exact List.cons_ne_nil _ _

theorem lowerCharBetween_ne_nil : lowerCharBetween before c behind ≠ [] := by
  unfold lowerCharBetween
  split
  · split <;> exact List.cons_ne_nil _ _
  · exact lowerChar_ne_nil

theorem lowerBetween_ne_nil (h : part ≠ []) : lowerBetween before part behind ≠ [] := by
  cases part with
  | nil => exact absurd rfl h
  | cons c part => exact List.append_ne_nil_of_left_ne_nil lowerCharBetween_ne_nil _

/-! ### The same form in two places -/

theorem lowerCharBetween_eq_iff :
    lowerCharBetween before c behind = lowerCharBetween before' c behind' ↔
      (c = 'Σ' → endsWord before behind = endsWord before' behind') := by
  by_cases hc : c = 'Σ'
  · subst hc
    simp only [lowerCharBetween, beq_self_eq_true, if_true, true_imp_iff]
    cases endsWord before behind <;> cases endsWord before' behind' <;> decide
  · simp [lowerCharBetween, hc]

/-- A part has the same form in two places exactly if its capital sigmas stand at the end of a word in both
places or in neither. -/
theorem lowerBetween_congr_iff :
    lowerBetween before part behind = lowerBetween before' part behind' ↔
      ∀ front back, part = front ++ 'Σ' :: back →
        endsWord (front.reverse ++ before) (back ++ behind) =
          endsWord (front.reverse ++ before') (back ++ behind') := by
  induction part generalizing before before' with
  | nil => exact iff_of_true rfl fun front back h => absurd h (by simp)
  | cons c part ih =>
    -- the forms of the first character are equally long, so the two forms are compared piece by piece
    have hpieces : lowerBetween before (c :: part) behind = lowerBetween before' (c :: part) behind' ↔
        lowerCharBetween before c (part ++ behind) = lowerCharBetween before' c (part ++ behind') ∧
          lowerBetween (c :: before) part behind = lowerBetween (c :: before') part behind' := by
      constructor
      · exact fun h => List.append_inj h length_lowerCharBetween
      · rintro ⟨hhead, htail⟩
        rw [lowerBetween, lowerBetween, hhead, htail]
    rw [hpieces, lowerCharBetween_eq_iff, ih]
    constructor
    · rintro ⟨hhead, htail⟩ front back hpart
      rcases List.cons_eq_append_iff.mp hpart with ⟨rfl, hcons⟩ | ⟨front, rfl, rfl⟩
      · obtain ⟨rfl, rfl⟩ := List.cons.inj hcons
        exact hhead rfl
      · rw [List.reverse_cons, List.append_assoc, List.append_assoc]
        exact htail front back rfl
    · intro h
      refine ⟨fun hc => h [] part (by rw [hc]; rfl), fun front back hpart => ?_⟩
      have hrest := h (c :: front) back (by rw [hpart]; rfl)
      rwa [List.reverse_cons, List.append_assoc, List.append_assoc] at hrest

/-! ### Pieces of texts -/

/-- Each capital sigma of the part stands at the end of a word between the two texts exactly if it does so in
the part by itself. -/
def SigmasAgree (before part behind : List Char) : Prop :=
  ∀ front back, part = front ++ 'Σ' :: back →
    endsWord (front.reverse ++ before) (back ++ behind) = endsWord front.reverse back

/-- **A part of a text has the form that it has by itself** if and only if its capital sigmas agree. -/
theorem lowerBetween_eq_iff :
    lowerBetween before part behind = lowerFrom [] part ↔ SigmasAgree before part behind := by
  rw [lowerFrom_eq_lowerBetween, lowerBetween_congr_iff]
  simp only [List.append_nil]
  rfl

/-- A part of a text is found when both are lowered, if its capital sigmas agree. -/
theorem contains_lower_of_sigmasAgree {s query : String}
    (hs : s.toList = before ++ query.toList ++ behind)
    (h : SigmasAgree before.reverse query.toList behind) : contains (lower s) (lower query) = true := by
  have hform : lowerFrom [] s.toList =
      lowerBetween [] before (query.toList ++ behind) ++ lowerFrom [] query.toList ++
        lowerFrom (query.toList.reverse ++ before.reverse) behind := by
    rw [hs, List.append_assoc, lowerFrom_append, lowerFrom_append, List.append_nil,
      lowerBetween_eq_iff.mpr h, List.append_assoc]
  rw [contains, occursIn_iff, lower, lower, String.toList_ofList, String.toList_ofList, hform]
  exact ⟨_, _, rfl⟩

/-! ### What stands around a text -/

/-- Characters that are skipped over leave the choice to what stands behind them. -/
theorem startsCased_append (cs ds : List Char) :
    startsCased (cs ++ ds) = if cs.all isCaseIgnorable then startsCased ds else startsCased cs := by
  induction cs with
  | nil => rfl
  | cons c cs ih =>
    cases hc : isCaseIgnorable c with
    | true => simpa [startsCased, hc] using ih
    | false => simp [startsCased, hc]

theorem startsCased_of_all (h : part.all isCaseIgnorable = true) : startsCased part = false := by
  have hrest := startsCased_append part []
  rwa [List.append_nil, if_pos h] at hrest

/-- What stands around the text has no say in how its capital sigmas are lowered.  Behind a cased character
a sigma has one in the text that is not skipped over, and so it does not matter what stands behind the text;
and if all that stands before a sigma is skipped over, it has a cased character behind it in the text, so that
it is at the end of no word, whatever stands before the text. -/
def Steady (part : List Char) : Prop :=
  ∀ front back, part = front ++ 'Σ' :: back →
    (startsCased front.reverse = true → back.all isCaseIgnorable = false) ∧
      (front.all isCaseIgnorable = true → startsCased back = true)

theorem steady_of_notMem (h : 'Σ' ∉ part) : Steady part := by
  rintro front back rfl
  exact absurd (List.mem_append_right front List.mem_cons_self) h

theorem Steady.sigmasAgree (h : Steady part) : SigmasAgree before part behind := by
  intro front back hpart
  obtain ⟨hbehind, hbefore⟩ := h front back hpart
  rw [endsWord, endsWord, startsCased_append, startsCased_append, List.all_reverse]
  cases hfront : front.all isCaseIgnorable with
  | true =>
    -- behind the sigma a word goes on
    have hcased : startsCased back = true := hbefore hfront
    have hall : back.all isCaseIgnorable = false := by
      rw [← Bool.not_eq_true]
      intro hall
      simp [startsCased_of_all hall] at hcased
    simp [hall, hcased]
  | false =>
    cases hcased : startsCased front.reverse with
    | false => rfl
    | true => simp [hbehind hcased]

/-! ### A letter beside a text

A text that is found wherever it is a piece is found with a letter on one side of it.  The small a will do:
it is cased, it is lowered to itself, and no form has it that does not come from this letter. -/

theorem eq_of_ofNat_eq_a {n : Nat} (h : Char.ofNat n = 'a') : n = 0x61 := by
  rw [Char.ofNat] at h
  by_cases hvalid : n.isValidChar
  · rw [dif_pos hvalid] at h
    exact congrArg Char.toNat h
  · rw [dif_neg hvalid] at h
    exact absurd h (by decide)

/-- No run beyond ASCII leads to the letter. -/
theorem not_run_to_a : ∀ r ∈ lowerRuns, 0x80 ≤ r.hi →
    ¬ ((r.lo : Int) + r.shift ≤ 0x61 ∧ 0x61 ≤ (r.hi : Int) + r.shift) := by
  decide +kernel

theorem of_a_mem_lowerChar (h : 'a' ∈ lowerChar c) : c = 'a' ∨ c = 'A' := by
  unfold lowerChar at h
  split at h
  · next hascii =>
    have hall : ∀ n < 0x80, 'a' ∈ [(Char.ofNat n).toLower] →
        Char.ofNat n = 'a' ∨ Char.ofNat n = 'A' := by
      decide
    have hc := hall c.toNat hascii
    rw [Char.ofNat_toNat] at hc
    exact hc h
  · next hwide =>
    split at h
    · exact absurd h (by decide)
    · split at h
      · next r hr =>
        have hhas := List.find?_some hr
        simp only [LowerRun.has, Bool.and_eq_true, decide_eq_true_eq] at hhas
        have ha := eq_of_ofNat_eq_a (List.mem_singleton.mp h).symm
        have hnot := not_run_to_a r (List.mem_of_find?_eq_some hr)
        omega
      · exact .inl (List.mem_singleton.mp h).symm

/-- The letter comes from nothing but itself, small or capital. -/
theorem of_a_mem_lowerBetween (h : 'a' ∈ lowerBetween before part behind) : 'a' ∈ part ∨ 'A' ∈ part := by
  induction part generalizing before with
  | nil => exact absurd h List.not_mem_nil
  | cons c part ih =>
    rcases List.mem_append.mp h with h | h
    · have hc : c = 'a' ∨ c = 'A' := by
        unfold lowerCharBetween at h
        split at h
        · split at h <;> exact absurd h (by decide)
        · exact of_a_mem_lowerChar h
      rcases hc with rfl | rfl
      · exact .inl List.mem_cons_self
      · exact .inr List.mem_cons_self
    · exact (ih h).imp (List.mem_cons_of_mem c) (List.mem_cons_of_mem c)

/-- A text of sigmas and characters that are skipped over has no such letter in its form. -/
theorem a_notMem_lowerBetween (hpart : ∀ c ∈ part, c = 'Σ' ∨ isCaseIgnorable c = true) :
    'a' ∉ lowerBetween before part behind := by
  intro h
  rcases of_a_mem_lowerBetween h with h | h
  · exact absurd (hpart _ h) (by decide +kernel)
  · exact absurd (hpart _ h) (by decide +kernel)

theorem startsCased_a (cs : List Char) : startsCased ('a' :: cs) = true := by
  have hstop : isCaseIgnorable 'a' = false := by decide +kernel
  have hcased : isCased 'a' = true := by decide +kernel
  simp [startsCased, hstop, hcased]

theorem lowerFrom_concat_a (part : List Char) :
    lowerFrom [] (part ++ ['a']) = lowerBetween [] part ['a'] ++ ['a'] := by
  rw [lowerFrom_append]
  rfl

theorem lowerFrom_a_cons (part : List Char) :
    lowerFrom [] ('a' :: part) = 'a' :: lowerBetween ['a'] part [] := by
  rw [← lowerFrom_eq_lowerBetween]
  rfl

/-! ### What it takes to be found -/

section Found

variable {front back : List Char}

/-- The lower-case form of a text that ends in a sigma and characters that are skipped over does not end in
the letter. -/
theorem not_ends_a (hback : back.all isCaseIgnorable = true) :
    ¬ ['a'] <:+ lowerFrom [] (front ++ 'Σ' :: back) := by
  intro ha
  rw [lowerFrom_append, lowerFrom_eq_lowerBetween] at ha
  have hshort := List.suffix_of_suffix_length_le ha (List.suffix_append _ _)
    (List.length_pos_iff.mpr (lowerBetween_ne_nil (List.cons_ne_nil _ _)))
  refine a_notMem_lowerBetween (fun c hc => ?_) (hshort.mem List.mem_cons_self)
  exact (List.mem_cons.mp hc).imp_right (List.all_eq_true.mp hback c)

/-- Nor does the form of one that begins with such characters and a sigma begin with the letter. -/
theorem not_begins_a (hfront : front.all isCaseIgnorable = true) :
    ¬ ['a'] <+: lowerFrom [] (front ++ 'Σ' :: back) := by
  intro ha
  rw [List.append_cons, lowerFrom_append] at ha
  have hshort := List.prefix_of_prefix_length_le ha (List.prefix_append _ _)
    (List.length_pos_iff.mpr (lowerBetween_ne_nil (by simp)))
  refine a_notMem_lowerBetween (fun c hc => ?_) (hshort.mem List.mem_cons_self)
  exact (List.mem_append.mp hc).symm.imp List.mem_singleton.mp (List.all_eq_true.mp hfront c)

/-- If a text is found with the letter behind it and does not end in the letter, it is found where it
stands. -/
theorem sigmasAgree_of_infix_concat (hends : ¬ ['a'] <:+ lowerFrom [] part)
    (h : lowerFrom [] part <:+: lowerFrom [] (part ++ ['a'])) : SigmasAgree [] part ['a'] := by
  rw [lowerFrom_concat_a, List.infix_concat_iff, List.suffix_concat_iff] at h
  have hwithin : lowerFrom [] part <:+: lowerBetween [] part ['a'] := by
    rcases h with (hnil | ⟨t, ht, -⟩) | hwithin
    · rw [hnil]
      exact List.nil_infix
    · exact absurd ⟨t, ht.symm⟩ hends
    · exact hwithin
  exact lowerBetween_eq_iff.mp (hwithin.eq_of_length length_lowerFrom).symm

/-- If it is found with the letter in front of it and does not begin with the letter, it is found where it
stands. -/
theorem sigmasAgree_of_infix_cons (hbegins : ¬ ['a'] <+: lowerFrom [] part)
    (h : lowerFrom [] part <:+: lowerFrom [] ('a' :: part)) : SigmasAgree ['a'] part [] := by
  rw [lowerFrom_a_cons, List.infix_cons_iff, List.prefix_cons_iff] at h
  have hwithin : lowerFrom [] part <:+: lowerBetween ['a'] part [] := by
    rcases h with (hnil | ⟨t, ht, -⟩) | hwithin
    · rw [hnil]
      exact List.nil_infix
    · exact absurd ⟨t, ht.symm⟩ hbegins
    · exact hwithin
  exact lowerBetween_eq_iff.mp (hwithin.eq_of_length length_lowerFrom).symm

/-- A text that is found with the letter on either side of it is steady. -/
theorem steady_of_infix (hbehind : lowerFrom [] part <:+: lowerFrom [] (part ++ ['a']))
    (hbefore : lowerFrom [] part <:+: lowerFrom [] ('a' :: part)) : Steady part := by
  rintro front back rfl
  constructor
  · intro hcased
    rw [← Bool.not_eq_true]
    intro hback
    -- by itself the sigma ends a word, which the letter carries on
    have hagree := sigmasAgree_of_infix_concat (not_ends_a hback) hbehind front back rfl
    rw [endsWord, endsWord, startsCased_append back, if_pos hback, startsCased_a,
      startsCased_of_all hback, List.append_nil, hcased] at hagree
    exact absurd hagree (by decide)
  · intro hfront
    rw [← Bool.not_eq_false]
    intro hcased
    -- by itself the sigma stands in front of all words, and with the letter it ends one
    have hagree := sigmasAgree_of_infix_cons (not_begins_a hfront) hbefore front back rfl
    have hall : front.reverse.all isCaseIgnorable = true := by rwa [List.all_reverse]
    rw [endsWord, endsWord, startsCased_append front.reverse, if_pos hall, startsCased_a,
      startsCased_of_all hall, List.append_nil, hcased] at hagree
    exact absurd hagree (by decide)

end Found

/-- **A text is found in all texts that it is a piece of**, when both are lowered, if and only if what stands
around it has no say in how its capital sigmas are lowered. -/
theorem forall_contains_lower_iff {query : String} :
    (∀ s : String, query.toList <:+: s.toList → contains (lower s) (lower query) = true) ↔
      Steady query.toList := by
  constructor
  · intro h
    have hfound (cs : List Char) (hcs : query.toList <:+: cs) :
        lowerFrom [] query.toList <:+: lowerFrom [] cs := by
      have hcs := h (String.ofList cs) (by rwa [String.toList_ofList])
      rwa [contains, occursIn_iff, lower, lower, String.toList_ofList, String.toList_ofList,
        String.toList_ofList] at hcs
    exact steady_of_infix (hfound _ (List.prefix_append _ _).isInfix)
      (hfound _ (List.suffix_cons _ _).isInfix)
  · rintro h s ⟨before, behind, hs⟩
    exact contains_lower_of_sigmasAgree hs.symm h.sigmasAgree

end ReplyRules.Text
