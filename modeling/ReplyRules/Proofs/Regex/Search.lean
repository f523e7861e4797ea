import ReplyRules.Regex.Search
import Mathlib.Data.Nat.Bitwise

/-!
The search for a match finds what matches.  Sets of places are numbers, and the bit of a place is set
when the place is a member; an expression moves a set of places forward (`Expr.MovesBy`), and the
search does so for all parts of an expression at once.

The search takes three short cuts, and each of them is taken out by a lemma of its own: a class is looked
for in the text only once (`places_placeTable`), moving stops when nothing changes (`moveTimes_succ`),
and from a place that has been left no move is made again (`testBit_moveUpTo`).  An unbounded repetition
needs no more moves than the text has characters, since a match never goes back
(`Expr.MatchesTimes.exists_le_length`).

Main result: where every repetition has its counts in order, an expression is found in a text exactly if
it matches some stretch of it (`Expr.isIn_iff`).
-/

namespace ReplyRules.Regex

open Unicode (CodeSet)

variable {text : List Char} {e : Expr} {i j k n : Nat}

/-! ### Matches lie in the text -/

namespace Expr

mutual

/-- A match does not end before it begins, nor behind the end of the text. -/
theorem Matches.bounds {e : Expr} {i j : Nat} : Matches text e i j → i ≤ j ∧ j ≤ text.length
  | .empty h => ⟨le_rfl, h⟩
  | .chars h _ => by
    have := (List.getElem?_eq_some_iff.mp h).1
    exact ⟨by omega, by omega⟩
  | .look h _ => ⟨le_rfl, h⟩
  | .capture h => h.bounds
  | .seq h₁ h₂ => ⟨h₁.bounds.1.trans h₂.bounds.1, h₂.bounds.2⟩
  | .altLeft h => h.bounds
  | .altRight h => h.bounds
  | .repeats _ _ h => h.bounds

theorem MatchesTimes.bounds {e : Expr} {n i j : Nat} :
    MatchesTimes text e n i j → i ≤ j ∧ j ≤ text.length
  | .zero h => ⟨le_rfl, h⟩
  | .succ h₁ h₂ => ⟨h₁.bounds.1.trans h₂.bounds.1, h₂.bounds.2⟩

end

theorem matchesTimes_zero : MatchesTimes text e 0 i j ↔ j = i ∧ i ≤ text.length := by
  constructor
  · rintro ⟨h⟩
    exact ⟨rfl, h⟩
  · rintro ⟨rfl, h⟩
    exact .zero h

theorem matchesTimes_succ :
    MatchesTimes text e (n + 1) i k ↔ ∃ j, Matches text e i j ∧ MatchesTimes text e n j k := by
  constructor
  · intro h
    cases h with
    | succ h₁ h₂ => exact ⟨_, h₁, h₂⟩
  · rintro ⟨j, h₁, h₂⟩
    exact .succ h₁ h₂

/-- Repeating `n` times and then `m` times is repeating `n + m` times. -/
theorem matchesTimes_add {m : Nat} :
    MatchesTimes text e (n + m) i k ↔
      ∃ j, MatchesTimes text e n i j ∧ MatchesTimes text e m j k := by
  induction n generalizing i with
  | zero =>
    rw [Nat.zero_add]
    constructor
    · intro h
      exact ⟨i, .zero (h.bounds.1.trans h.bounds.2), h⟩
    · rintro ⟨j, h₀, h⟩
      obtain ⟨rfl, -⟩ := matchesTimes_zero.mp h₀
      exact h
  | succ n ih =>
    rw [Nat.add_right_comm, matchesTimes_succ]
    constructor
    · rintro ⟨j, h₁, h₂⟩
      obtain ⟨l, h₂, h₃⟩ := ih.mp h₂
      exact ⟨l, .succ h₁ h₂, h₃⟩
    · rintro ⟨l, h₁, h₃⟩
      obtain ⟨j, h₁, h₂⟩ := matchesTimes_succ.mp h₁
      exact ⟨j, h₁, ih.mpr ⟨l, h₂, h₃⟩⟩

/-- Repetitions that stay where they are can be left out, so there are no more of them than
characters. -/
theorem MatchesTimes.exists_le_length (h : MatchesTimes text e n i j) :
    ∃ m ≤ text.length, MatchesTimes text e m i j := by
  suffices short : ∃ m ≤ j - i, MatchesTimes text e m i j by
    obtain ⟨m, hm, h'⟩ := short
    have := h.bounds
    exact ⟨m, by omega, h'⟩
  induction n generalizing i with
  | zero =>
    obtain ⟨rfl, hi⟩ := matchesTimes_zero.mp h
    exact ⟨0, Nat.zero_le _, .zero hi⟩
  | succ n ih =>
    obtain ⟨l, h₁, h₂⟩ := matchesTimes_succ.mp h
    obtain ⟨m, hm, h₃⟩ := ih h₂
    have hil := h₁.bounds.1
    have hlj := h₂.bounds.1
    rcases hil.eq_or_lt with rfl | hlt
    · exact ⟨m, hm, h₃⟩
    · exact ⟨m + 1, by omega, .succ h₁ h₃⟩

end Expr

/-! ### Matches of sequences -/

namespace Expr

theorem inSequence_cons (e : Expr) (es : List Expr) :
    inSequence (e :: es) =
      match e, inSequence es with
      | .empty, rest => rest
      | e, .empty => e
      | e, rest => .seq e rest :=
  rfl

/-- What is left out of a sequence matches nothing but the empty stretch. -/
theorem matches_inSequence_cons {es : List Expr} :
    Matches text (inSequence (e :: es)) i k ↔
      ∃ j, Matches text e i j ∧ Matches text (inSequence es) j k := by
  rw [inSequence_cons]
  split
  · constructor
    · intro h
      exact ⟨i, .empty (h.bounds.1.trans h.bounds.2), h⟩
    · rintro ⟨j, hij, h⟩
      cases hij with
      | empty _ => exact h
  · next hes =>
    rw [hes]
    constructor
    · intro h
      exact ⟨k, h, .empty h.bounds.2⟩
    · rintro ⟨j, h, hjk⟩
      cases hjk with
      | empty _ => exact h
  · constructor
    · intro h
      cases h with
      | seq h₁ h₂ => exact ⟨_, h₁, h₂⟩
    · rintro ⟨j, h₁, h₂⟩
      exact .seq h₁ h₂

end Expr

/-! ### Sets of places -/

/-- Every member of the set is a place of a text with `n` characters. -/
def Within (n s : Nat) : Prop := ∀ i, s.testBit i = true → i ≤ n

theorem testBit_allPlaces : (allPlaces n).testBit i = true ↔ i ≤ n := by
  rw [allPlaces, Nat.pow_eq, Nat.testBit_two_pow_sub_one, decide_eq_true_eq, Nat.lt_succ_iff]

theorem within_allPlaces (n : Nat) : Within n (allPlaces n) := fun _ => testBit_allPlaces.mp

theorem testBit_without (s t i : Nat) :
    (without s t).testBit i = (s.testBit i && !t.testBit i) := by
  rw [without, Nat.testBit_xor, Nat.testBit_and]
  cases s.testBit i <;> cases t.testBit i <;> rfl

/-- The first bit is `b`, and the others are those of `m`. -/
theorem testBit_cons (b : Bool) (m : Nat) :
    ((if b then 1 else 0) + 2 * m).testBit i =
      match i with
      | 0 => b
      | i + 1 => m.testBit i := by
  rcases i with - | i
  · cases b <;> simp [Nat.testBit_zero, Nat.add_mod]
  · rw [Nat.testBit_succ]
    congr 1
    split <;> omega

theorem testBit_placesOf (p : Char → Bool) (text : List Char) (i : Nat) :
    (placesOf p text).testBit i = (text[i]?).any p := by
  induction text generalizing i with
  | nil => simp [placesOf]
  | cons c cs ih =>
    rw [placesOf, testBit_cons]
    rcases i with - | i
    · rfl
    · exact ih i

/-- The character before a place, where `before` stands before the first. -/
theorem testBit_placesBetween (p : Option Char → Option Char → Bool) (before : Option Char)
    (text : List Char) (i : Nat) :
    (placesBetween p before text).testBit i =
      (decide (i ≤ text.length) &&
        p (match i with | 0 => before | i + 1 => text[i]?) text[i]?) := by
  induction text generalizing before i with
  | nil =>
    rcases i with - | i <;> cases h : p before none <;> simp [placesBetween, h, Nat.testBit_succ]
  | cons c cs ih =>
    rw [placesBetween, testBit_cons]
    rcases i with - | i
    · simp
    · refine (ih (some c) i).trans ?_
      rcases i with - | i <;> simp

theorem testBit_placesBetween_look (l : Look) (text : List Char) (i : Nat) :
    (placesBetween l.holds none text).testBit i = true ↔
      i ≤ text.length ∧
        l.holds (Expr.charBefore text i) (Expr.charBehind text i) = true := by
  rw [testBit_placesBetween, Bool.and_eq_true, decide_eq_true_eq]
  rcases i with - | i <;> rfl

/-- The table gives back the places of a class, whether or not the class is in it. -/
theorem places_placeTable (text : List Char) (sets : List CodeSet) (set : CodeSet) :
    (placeTable text sets).places text set = placesOf set.hasChar text := by
  unfold placeTable PlaceTable.places
  induction sets.eraseDups with
  | nil => rfl
  | cons s ss ih =>
    rw [List.map_cons, List.lookup_cons]
    by_cases h : set = s
    · subst h
      simp
    · simpa [beq_eq_false_iff_ne.mpr h] using ih

/-! ### Moving places -/

/-- `move` takes a set of places to the places where matches of `e` end that begin at one of them. -/
def Expr.MovesBy (text : List Char) (e : Expr) (move : Nat → Nat) : Prop :=
  ∀ s, Within text.length s → ∀ j,
    (move s).testBit j = true ↔ ∃ i, s.testBit i = true ∧ e.Matches text i j

namespace Expr

variable {move : Nat → Nat}

theorem MovesBy.within (h : MovesBy text e move) {s : Nat} (hs : Within text.length s) :
    Within text.length (move s) := by
  intro j hj
  obtain ⟨i, -, hij⟩ := (h s hs j).mp hj
  exact hij.bounds.2

end Expr

theorem moveTimes_fixed {move : Nat → Nat} {s : Nat} (h : move s = s) (n : Nat) :
    moveTimes move n s = s := by
  cases n with
  | zero => rfl
  | succ n => simp [moveTimes, h]

/-- Stopping when nothing changes makes no difference. -/
theorem moveTimes_succ (move : Nat → Nat) (n s : Nat) :
    moveTimes move (n + 1) s = moveTimes move n (move s) := by
  by_cases h : move s = s
  · rw [moveTimes_fixed h, h, moveTimes_fixed h]
  · simp [moveTimes, h]

/-- The last move may be made apart from the others. -/
theorem move_moveTimes (move : Nat → Nat) (n s : Nat) :
    move (moveTimes move n s) = moveTimes move (n + 1) s := by
  induction n generalizing s with
  | zero =>
    rw [moveTimes_succ]
    rfl
  | succ n ih => rw [moveTimes_succ, ih, moveTimes_succ move (n + 1)]

theorem testBit_moveTimes {move : Nat → Nat} (h : Expr.MovesBy text e move) {s : Nat}
    (hs : Within text.length s) (n j : Nat) :
    (moveTimes move n s).testBit j = true ↔
      ∃ i, s.testBit i = true ∧ e.MatchesTimes text n i j := by
  induction n generalizing s with
  | zero =>
    simp only [moveTimes, Expr.matchesTimes_zero]
    constructor
    · intro hj
      exact ⟨j, hj, rfl, hs j hj⟩
    · rintro ⟨i, hi, rfl, -⟩
      exact hi
  | succ n ih =>
    rw [moveTimes_succ, ih (h.within hs)]
    constructor
    · rintro ⟨l, hl, hlj⟩
      obtain ⟨i, hi, hil⟩ := (h s hs l).mp hl
      exact ⟨i, hi, .succ hil hlj⟩
    · rintro ⟨i, hi, hij⟩
      obtain ⟨l, hil, hlj⟩ := Expr.matchesTimes_succ.mp hij
      exact ⟨l, (h s hs l).mpr ⟨i, hi, hil⟩, hlj⟩

/-- No number of moves leaves a set that one move does not leave. -/
theorem testBit_of_matchesTimes {s : Nat}
    (h : ∀ i, s.testBit i = true → ∀ j, e.Matches text i j → s.testBit j = true)
    (hi : s.testBit i = true) (hij : e.MatchesTimes text n i j) : s.testBit j = true := by
  induction n generalizing i with
  | zero =>
    obtain ⟨rfl, -⟩ := Expr.matchesTimes_zero.mp hij
    exact hi
  | succ n ih =>
    obtain ⟨l, hil, hlj⟩ := Expr.matchesTimes_succ.mp hij
    exact ih (h i hi l hil) hlj

/-- Making at most `n` moves from the places of `seen` needs no move from a place that is not fresh, if
all those have been left before: their moves end in `seen` again. -/
theorem testBit_moveUpTo {move : Nat → Nat} (h : Expr.MovesBy text e move) {seen fresh : Nat}
    (hs : Within text.length seen)
    (hfresh : ∀ i, fresh.testBit i = true → seen.testBit i = true)
    (hleft : ∀ i, seen.testBit i = true → fresh.testBit i = false →
      ∀ j, e.Matches text i j → seen.testBit j = true)
    (n j : Nat) :
    (moveUpTo move n seen fresh).testBit j = true ↔
      ∃ m ≤ n, ∃ i, seen.testBit i = true ∧ e.MatchesTimes text m i j := by
  induction n generalizing seen fresh with
  | zero =>
    rw [moveUpTo]
    constructor
    · intro hj
      exact ⟨0, le_rfl, j, hj, .zero (hs j hj)⟩
    · rintro ⟨m, hm, i, hi, hij⟩
      obtain rfl : m = 0 := Nat.le_zero.mp hm
      obtain ⟨rfl, -⟩ := Expr.matchesTimes_zero.mp hij
      exact hi
  | succ n ih =>
    rw [moveUpTo]
    split
    · next h₀ =>
      obtain rfl : fresh = 0 := by simpa using h₀
      -- no place is fresh, so all moves end in `seen`
      have hclosed : ∀ i, seen.testBit i = true → ∀ j, e.Matches text i j → seen.testBit j = true :=
        fun i hi => hleft i hi (Nat.zero_testBit i)
      constructor
      · intro hj
        exact ⟨0, Nat.zero_le _, j, hj, .zero (hs j hj)⟩
      · rintro ⟨m, -, i, hi, hij⟩
        exact testBit_of_matchesTimes hclosed hi hij
    · have hf : Within text.length fresh := fun i hi => hs i (hfresh i hi)
      -- the places that are reached for the first time
      have hnew : ∀ i, (without (move fresh) seen).testBit i = true ↔
          (∃ l, fresh.testBit l = true ∧ e.Matches text l i) ∧ seen.testBit i = false := by
        intro i
        rw [testBit_without, Bool.and_eq_true, h fresh hf, Bool.not_eq_true']
      have hmove : ∀ i, seen.testBit i = true → ∀ l, e.Matches text i l →
          (seen ||| without (move fresh) seen).testBit l = true := by
        intro i hi l hil
        rw [Nat.testBit_or, Bool.or_eq_true, hnew]
        cases hl : seen.testBit l with
        | true => exact .inl rfl
        | false =>
          cases hfi : fresh.testBit i with
          | true => exact .inr ⟨⟨i, hfi, hil⟩, rfl⟩
          | false => exact absurd (hleft i hi hfi l hil) (by simp [hl])
      rw [ih]
      · constructor
        · rintro ⟨m, hm, i, hi, hij⟩
          rw [Nat.testBit_or, Bool.or_eq_true, hnew] at hi
          rcases hi with hi | ⟨⟨l, hl, hli⟩, -⟩
          · exact ⟨m, by omega, i, hi, hij⟩
          · exact ⟨m + 1, by omega, l, hfresh l hl, .succ hli hij⟩
        · rintro ⟨m, hm, i, hi, hij⟩
          rcases m with - | m
          · refine ⟨0, Nat.zero_le _, i, ?_, hij⟩
            rw [Nat.testBit_or, hi, Bool.true_or]
          · obtain ⟨l, hil, hlj⟩ := Expr.matchesTimes_succ.mp hij
            exact ⟨m, by omega, l, hmove i hi l hil, hlj⟩
      · intro i hi
        rw [Nat.testBit_or, Bool.or_eq_true, hnew] at hi
        rcases hi with hi | ⟨⟨l, -, hli⟩, -⟩
        · exact hs i hi
        · exact hli.bounds.2
      · intro i hi
        rw [Nat.testBit_or, hi, Bool.or_true]
      · intro i hi hni
        rw [Nat.testBit_or, hni, Bool.or_false] at hi
        exact hmove i hi

/-! ### The search -/

namespace Expr

/-- In every repetition the least count is not above the greatest. -/
def CountsInOrder : Expr → Prop
  | .empty => True
  | .chars _ => True
  | .look _ => True
  | .capture e => e.CountsInOrder
  | .seq a b => a.CountsInOrder ∧ b.CountsInOrder
  | .alt a b => a.CountsInOrder ∧ b.CountsInOrder
  | .repeats min max e => (∀ m ∈ max, min ≤ m) ∧ e.CountsInOrder

theorem countsInOrder_inSequence {es : List Expr} (h : ∀ e ∈ es, e.CountsInOrder) :
    (inSequence es).CountsInOrder := by
  induction es with
  | nil => trivial
  | cons e es ih =>
    have he := h e List.mem_cons_self
    have hes := ih fun e' h' => h e' (List.mem_cons_of_mem e h')
    rw [inSequence_cons]
    split
    · exact hes
    · exact he
    · exact ⟨he, hes⟩

variable {move : Nat → Nat}

/-- Any number of moves can be made in as many moves as the text has characters. -/
theorem exists_le_getD (max : Option Nat) (i j : Nat) :
    (∃ m ≤ max.getD (text.length + 1), MatchesTimes text e m i j) ↔
      ∃ m, (max.all (m ≤ ·)) = true ∧ MatchesTimes text e m i j := by
  cases max with
  | none =>
    constructor
    · rintro ⟨m, -, h⟩
      exact ⟨m, rfl, h⟩
    · rintro ⟨m, -, h⟩
      obtain ⟨m', hm', h'⟩ := h.exists_le_length
      exact ⟨m', Nat.le_succ_of_le hm', h'⟩
  | some b => simp

/-- What is left of the greatest count after the least one. -/
theorem all_map_sub {min : Nat} {max : Option Nat} (hmax : ∀ b ∈ max, min ≤ b) (m : Nat) :
    (max.map (· - min)).all (m ≤ ·) = true ↔ max.all (min + m ≤ ·) = true := by
  cases max with
  | none => exact Iff.rfl
  | some b =>
    have hb := hmax b rfl
    simp only [Option.map_some, Option.all_some, decide_eq_true_eq]
    omega

/-- A repetition from no time on. -/
theorem MovesBy.repeats_zero (h : MovesBy text e move) (max : Option Nat) :
    MovesBy text (.repeats 0 max e)
      fun s => moveUpTo move (max.getD (text.length + 1)) s s := by
  intro s hs j
  rw [testBit_moveUpTo h hs (fun _ hi => hi) (fun i hi hni => absurd hi (by simp [hni]))]
  constructor
  · rintro ⟨m, hm, i, hi, hij⟩
    obtain ⟨m', hm', hij'⟩ := (exists_le_getD max i j).mp ⟨m, hm, hij⟩
    exact ⟨i, hi, .repeats (Nat.zero_le _) hm' hij'⟩
  · rintro ⟨i, hi, hij⟩
    cases hij with
    | repeats _ hmax hij =>
      obtain ⟨m, hm, hij⟩ := (exists_le_getD max i j).mpr ⟨_, hmax, hij⟩
      exact ⟨m, hm, i, hi, hij⟩

/-- A repetition from some least number of times on: that many moves are made in any case, and of the
places reached then, those from which the last of these moves was made have been left already. -/
theorem MovesBy.repeats_succ (h : MovesBy text e move) {min : Nat} {max : Option Nat}
    (hmax : ∀ m ∈ max, min + 1 ≤ m) :
    MovesBy text (.repeats (min + 1) max e) fun s =>
      let before := moveTimes move min s
      let least := move before
      moveUpTo move ((max.map (· - (min + 1))).getD (text.length + 1)) least
        (without least before) := by
  intro s hs j
  have hbefore : Within text.length (moveTimes move min s) := by
    intro i hi
    obtain ⟨l, -, hl⟩ := (testBit_moveTimes h hs min i).mp hi
    exact hl.bounds.2
  have hleast : ∀ i, (move (moveTimes move min s)).testBit i = true ↔
      ∃ l, s.testBit l = true ∧ MatchesTimes text e (min + 1) l i := by
    intro i
    rw [move_moveTimes move]
    exact testBit_moveTimes h hs (min + 1) i
  have hleft : ∀ i, (move (moveTimes move min s)).testBit i = true →
      (without (move (moveTimes move min s)) (moveTimes move min s)).testBit i = false →
      ∀ l, Matches text e i l → (move (moveTimes move min s)).testBit l = true := by
    intro i hi hni l hil
    rw [testBit_without, hi, Bool.true_and, Bool.not_eq_false'] at hni
    exact (h _ hbefore l).mpr ⟨i, hni, hil⟩
  have hfresh : ∀ i, (without (move (moveTimes move min s)) (moveTimes move min s)).testBit i = true →
      (move (moveTimes move min s)).testBit i = true := by
    intro i hi
    rw [testBit_without, Bool.and_eq_true] at hi
    exact hi.1
  show (moveUpTo move _ _ _).testBit j = true ↔ _
  rw [testBit_moveUpTo h (h.within hbefore) hfresh hleft]
  constructor
  · rintro ⟨m, hm, l, hl, hlj⟩
    obtain ⟨i, hi, hil⟩ := (hleast l).mp hl
    obtain ⟨m', hm', hlj'⟩ := (exists_le_getD _ l j).mp ⟨m, hm, hlj⟩
    exact ⟨i, hi, .repeats (Nat.le_add_right _ m') ((all_map_sub hmax m').mp hm')
      (matchesTimes_add.mpr ⟨l, hil, hlj'⟩)⟩
  · rintro ⟨i, hi, hij⟩
    cases hij with
    | @repeats _ n _ _ _ _ hmin hall hij =>
      obtain ⟨m, rfl⟩ := Nat.exists_eq_add_of_le hmin
      obtain ⟨l, hil, hlj⟩ := matchesTimes_add.mp hij
      obtain ⟨m', hm', hlj'⟩ :=
        (exists_le_getD _ l j).mpr ⟨m, (all_map_sub hmax m).mpr hall, hlj⟩
      exact ⟨m', hm', l, (hleast l).mpr ⟨i, hi, hil⟩, hlj'⟩

/-- The track of an expression moves places as the expression does: one case for each way to build an
expression. -/
theorem movesBy_ends (text : List Char) (sets : List CodeSet) (e : Expr) (he : e.CountsInOrder) :
    MovesBy text e ((e.trackWith (placeTable text sets) text).ends text.length) := by
  induction e with
  | empty =>
    intro s hs j
    simp only [trackWith, Track.ends]
    constructor
    · intro hj
      exact ⟨j, hj, .empty (hs j hj)⟩
    · rintro ⟨i, hi, hij⟩
      cases hij with
      | empty _ => exact hi
  | chars set =>
    intro s hs j
    simp only [trackWith, Track.ends, places_placeTable, Nat.testBit_shiftLeft, Nat.testBit_and,
      testBit_placesOf, Bool.and_eq_true, decide_eq_true_eq]
    constructor
    · rintro ⟨hj, hi, hany⟩
      obtain ⟨i, rfl⟩ := Nat.exists_eq_add_of_le' hj
      obtain ⟨c, hget, hc⟩ := (Option.any_eq_true _ _).mp hany
      exact ⟨i, hi, .chars hget hc⟩
    · rintro ⟨i, hi, hij⟩
      cases hij with
      | chars hget hc => exact ⟨Nat.le_add_left 1 i, hi, (Option.any_eq_true _ _).mpr ⟨_, hget, hc⟩⟩
  | look l =>
    intro s hs j
    simp only [trackWith, Track.ends, Nat.testBit_and, Bool.and_eq_true,
      testBit_placesBetween_look]
    constructor
    · rintro ⟨hj, hlen, hl⟩
      exact ⟨j, hj, .look hlen hl⟩
    · rintro ⟨i, hi, hij⟩
      cases hij with
      | look hlen hl => exact ⟨hi, hlen, hl⟩
  | capture e ih =>
    intro s hs j
    refine (ih he s hs j).trans ⟨?_, ?_⟩
    · rintro ⟨i, hi, hij⟩
      exact ⟨i, hi, .capture hij⟩
    · rintro ⟨i, hi, hij⟩
      cases hij with
      | capture hij => exact ⟨i, hi, hij⟩
  | seq a b iha ihb =>
    intro s hs j
    refine (ihb he.2 _ ((iha he.1).within hs) j).trans ⟨?_, ?_⟩
    · rintro ⟨l, hl, hlj⟩
      obtain ⟨i, hi, hil⟩ := (iha he.1 s hs l).mp hl
      exact ⟨i, hi, .seq hil hlj⟩
    · rintro ⟨i, hi, hij⟩
      cases hij with
      | seq hil hlj => exact ⟨_, (iha he.1 s hs _).mpr ⟨i, hi, hil⟩, hlj⟩
  | alt a b iha ihb =>
    intro s hs j
    simp only [trackWith, Track.ends, Nat.testBit_or, Bool.or_eq_true, iha he.1 s hs j,
      ihb he.2 s hs j]
    constructor
    · rintro (⟨i, hi, hij⟩ | ⟨i, hi, hij⟩)
      · exact ⟨i, hi, .altLeft hij⟩
      · exact ⟨i, hi, .altRight hij⟩
    · rintro ⟨i, hi, hij⟩
      cases hij with
      | altLeft hij => exact .inl ⟨i, hi, hij⟩
      | altRight hij => exact .inr ⟨i, hi, hij⟩
  | repeats min max e ih =>
    intro s hs j
    cases min with
    | zero =>
      rw [trackWith, Track.ends]
      exact (ih he.2).repeats_zero max s hs j
    | succ min =>
      rw [trackWith, Track.ends]
      exact (ih he.2).repeats_succ he.1 s hs j

/-- **The search finds exactly the expressions that match some stretch of the text.** -/
theorem isIn_iff (he : e.CountsInOrder) : e.isIn text = true ↔ ∃ i j, e.Matches text i j := by
  have hends := movesBy_ends text e.classes e he _ (within_allPlaces text.length)
  have hne : e.isIn text = true ↔
      ∃ j, ((e.track text).ends text.length (allPlaces text.length)).testBit j = true := by
    rw [isIn, bne_iff_ne]
    exact ⟨Nat.exists_testBit_of_ne_zero, fun ⟨j, hj⟩ h => by simp [h] at hj⟩
  rw [hne]
  constructor
  · rintro ⟨j, hj⟩
    obtain ⟨i, -, hij⟩ := (hends j).mp hj
    exact ⟨i, j, hij⟩
  · rintro ⟨i, j, hij⟩
    have hi : i ≤ text.length := hij.bounds.1.trans hij.bounds.2
    exact ⟨j, (hends j).mpr ⟨i, testBit_allPlaces.mpr hi, hij⟩⟩

end Expr

end ReplyRules.Regex
