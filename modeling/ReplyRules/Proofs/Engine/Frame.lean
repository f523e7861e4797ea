import ReplyRules.Proofs.Engine.Batch
import ReplyRules.Proofs.Rule.Validation

/-!
What a change leaves alone.  The list behind a change is told place by place (`Edit.Leaves`), and a change is
refused for the first index that it names at which there is no rule, or else for what is entered
(`Edit.apply_eq_ruleIndex_iff`, `Edit.apply_eq_validation_iff`).

Main result: whatever a change other than a whole new list makes of some rules, those at the places that it
does not name are still there, as they are and in their order; what becomes of the others, and what is new,
is known; and so is when and why a change is refused (`Edit.apply_frame`).
-/

namespace ReplyRules.Edit

variable {now : Instant} {rules rules' : List Rule} {indices : List Nat} {index i n len : Nat} {edit : Edit}
  {why : ValidationError}

/-- The indices that a change names, in their order. -/
def named : Edit → List Nat
  | replace _ => []
  | add _ => []
  | update index _ => [index]
  | delete index => [index]
  | deleteMany indices => indices
  | importRules _ => []
  | duplicate index => [index]
  | setEnabled indices _ => indices

/-- What is entered for a change, if anything is. -/
def input? : Edit → Option RuleInput
  | add input => some input
  | update _ input => some input
  | _ => none

/-- The list behind a change, told place by place. -/
def Leaves (now : Instant) (rules rules' : List Rule) : Edit → Prop
  | replace replacement => rules' = replacement
  | add input => ∃ entered, input.validate now = .ok entered ∧ rules' = rules ++ [entered]
  | update index input =>
    rules'.length = rules.length ∧ (∀ place, place ≠ index → rules'[place]? = rules[place]?) ∧
      ∃ old entered, rules[index]? = some old ∧ input.validate now = .ok entered ∧
        rules'[index]? = some { entered with createdAt := old.createdAt, enabled := old.enabled }
  | delete index =>
    rules'.length + 1 = rules.length ∧ (∀ place, place < index → rules'[place]? = rules[place]?) ∧
      ∀ place, index ≤ place → rules'[place]? = rules[place + 1]?
  | deleteMany indices => rules' = without rules indices
  | importRules imported => rules' = rules ++ imported.filter Rule.isComplete
  | duplicate index =>
    ∃ source, rules[index]? = some source ∧
      rules' = rules ++
        [{ source with note := Rule.copyNote source.note, createdAt := now, updatedAt := now }]
  | setEnabled indices flag =>
    rules'.length = rules.length ∧ ∀ place, rules'[place]? =
      rules[place]?.map fun r => if place ∈ indices then { r with enabled := flag } else r

/-! ### Changes that are refused -/

theorem not_firstBeyond_nil : ¬ FirstBeyond rules [] i := by
  rintro ⟨before, behind, hsplit, -⟩
  cases before <;> cases hsplit

theorem firstBeyond_singleton : FirstBeyond rules [index] i ↔ i = index ∧ rules.length ≤ index := by
  constructor
  · rintro ⟨before, behind, hsplit, -, hi⟩
    cases before with
    | nil =>
      cases hsplit
      exact ⟨rfl, hi⟩
    | cons j before => simp at hsplit
  · rintro ⟨rfl, hi⟩
    exact ⟨[], [], rfl, List.forall_mem_nil _, hi⟩

theorem checkIndices_ne_validation : checkIndices rules indices ≠ .error (.validation why) := by
  intro h
  obtain ⟨i, -, hi⟩ := checkIndices_eq_error_iff.mp h
  cases hi

theorem ruleAt_ne_validation : ruleAt rules index ≠ .error (.validation why) := by
  intro h
  cases (ruleAt_eq_error_iff.mp h).2

theorem checkIndices_eq_ruleIndex_iff :
    checkIndices rules indices = .error (.ruleIndex i len) ↔
      FirstBeyond rules indices i ∧ len = rules.length := by
  rw [checkIndices_eq_error_iff]
  constructor
  · rintro ⟨i', hi', heq⟩
    cases heq
    exact ⟨hi', rfl⟩
  · rintro ⟨hi, rfl⟩
    exact ⟨i, hi, rfl⟩

theorem ruleAt_eq_ruleIndex_iff :
    ruleAt rules index = .error (.ruleIndex i len) ↔
      FirstBeyond rules [index] i ∧ len = rules.length := by
  rw [ruleAt_eq_error_iff, firstBeyond_singleton, EditError.ruleIndex.injEq]
  tauto

/-- **A change is refused for an index** exactly where there is no rule at the index, and at none that it
names before; it does not matter what is entered. -/
theorem apply_eq_ruleIndex_iff :
    edit.apply now rules = .error (.ruleIndex i len) ↔
      FirstBeyond rules edit.named i ∧ len = rules.length := by
  cases edit with
  | replace replacement => simp [apply, named, not_firstBeyond_nil]
  | add input =>
    rw [apply, named]
    cases input.validate now <;> simp [not_firstBeyond_nil]
  | update index input =>
    rw [apply, named, ← ruleAt_eq_ruleIndex_iff]
    cases ruleAt rules index with
    | error e => simp
    | ok r =>
      cases hrevise : r.revise input now <;> simp [hrevise]
  | delete index => exact map_eq_error_iff.trans ruleAt_eq_ruleIndex_iff
  | deleteMany indices => exact map_eq_error_iff.trans checkIndices_eq_ruleIndex_iff
  | importRules imported => simp [apply, named, not_firstBeyond_nil]
  | duplicate index => exact map_eq_error_iff.trans ruleAt_eq_ruleIndex_iff
  | setEnabled indices flag => exact map_eq_error_iff.trans checkIndices_eq_ruleIndex_iff

/-- **A change is refused for what is entered** exactly where there are rules at all indices that it names,
and the input is not accepted. -/
theorem apply_eq_validation_iff :
    edit.apply now rules = .error (.validation why) ↔
      (∀ i ∈ edit.named, i < rules.length) ∧ ∃ input ∈ edit.input?, input.validate now = .error why := by
  cases edit with
  | add input =>
    rw [apply, named, input?]
    cases hvalidate : input.validate now <;> simp [hvalidate]
  | update index input =>
    rw [apply, named, input?]
    cases hrule : ruleAt rules index with
    | error e =>
      obtain ⟨hle, rfl⟩ := ruleAt_eq_error_iff.mp hrule
      simp [Nat.not_lt_of_le hle]
    | ok r =>
      have hlt : index < rules.length := (List.getElem?_eq_some_iff.mp (ruleAt_eq_ok_iff.mp hrule)).1
      simp only [Option.mem_some_iff, exists_eq_left', List.mem_singleton, forall_eq, hlt, true_and,
        ← Rule.revise_eq_error_iff (r := r)]
      cases r.revise input now <;> simp
  | replace replacement | importRules imported => simp [apply, input?]
  | delete index | duplicate index =>
    -- nothing is entered for these changes
    simp only [input?, Option.not_mem_none, false_and, exists_false, and_false, iff_false]
    exact fun h => ruleAt_ne_validation (map_eq_error_iff.mp h)
  | deleteMany indices | setEnabled indices flag =>
    simp only [input?, Option.not_mem_none, false_and, exists_false, and_false, iff_false]
    exact fun h => checkIndices_ne_validation (map_eq_error_iff.mp h)

/-! ### Changes that are made -/

theorem withoutFrom_nil : withoutFrom n rules [] = rules := withoutFrom_of_lt (List.forall_mem_nil _)

theorem without_singleton (rules : List Rule) (index : Nat) :
    without rules [index] = rules.eraseIdx index := by
  have herase : withoutFrom 0 (rules.eraseIdx index) [] = withoutFrom 0 rules [0 + index] :=
    withoutFrom_eraseIdx (List.forall_mem_nil _)
  rw [withoutFrom_nil, Nat.zero_add] at herase
  exact herase.symm

/-- Lists that agree at all other places have the same rules there. -/
theorem withoutFrom_eq_of_agree (hlength : rules'.length = rules.length)
    (h : ∀ place, n + place ∉ indices → rules'[place]? = rules[place]?) :
    withoutFrom n rules' indices = withoutFrom n rules indices := by
  induction rules generalizing rules' n with
  | nil => rw [List.length_eq_zero_iff.mp hlength]
  | cons r rules ih =>
    obtain ⟨r', rules', rfl⟩ := List.exists_cons_of_length_eq_add_one hlength
    have hbehind : withoutFrom (n + 1) rules' indices = withoutFrom (n + 1) rules indices := by
      refine ih (Nat.succ.inj hlength) fun place hplace => ?_
      have hnext := h (place + 1) (by rwa [Nat.add_comm place, ← Nat.add_assoc])
      simpa using hnext
    rw [withoutFrom_cons, withoutFrom_cons, hbehind]
    split
    · rfl
    · next hn =>
      have hhead : some r' = some r := h 0 hn
      rw [Option.some.inj hhead]

theorem without_sublist_of_agree (hlength : rules'.length = rules.length)
    (h : ∀ place, place ∉ indices → rules'[place]? = rules[place]?) :
    (without rules indices).Sublist rules' := by
  rw [without, ← withoutFrom_eq_of_agree hlength (by simpa using h)]
  exact withoutFrom_sublist 0 rules' indices

theorem leaves_of_gives (h : edit.Gives now rules rules') : edit.Leaves now rules rules' := by
  cases edit with
  | replace replacement => exact h
  | add input => exact h
  | update index input =>
    obtain ⟨old, revised, hold, hrevised, rfl⟩ := h
    obtain ⟨entered, hentered, rfl⟩ := Rule.revise_eq_ok_iff.mp hrevised
    have hindex : index < rules.length := (List.getElem?_eq_some_iff.mp hold).1
    refine ⟨List.length_set, fun place hplace => List.getElem?_set_ne hplace.symm, old, entered, hold,
      hentered, List.getElem?_set_self hindex⟩
  | delete index =>
    obtain ⟨hindex, rfl⟩ := h
    refine ⟨?_, fun place hplace => List.getElem?_eraseIdx_of_lt hplace,
      fun place hplace => List.getElem?_eraseIdx_of_ge hplace⟩
    rw [List.length_eraseIdx_of_lt hindex]
    omega
  | deleteMany indices => exact h.2.trans (eraseAll_eq_without rules indices)
  | importRules imported => exact h
  | duplicate index => exact h
  | setEnabled indices flag =>
    obtain ⟨-, rfl⟩ := h
    refine ⟨?_, getElem?_switchAll rules indices flag⟩
    rw [switchAll_eq_mapIdx, List.length_mapIdx]

/-- What a change does not name is still there, in the same order. -/
theorem sublist_of_gives (h : edit.Gives now rules rules')
    (hedit : ∀ replacement, edit ≠ replace replacement) :
    (without rules edit.named).Sublist rules' := by
  have hsublist (indices : List Nat) : (without rules indices).Sublist rules :=
    withoutFrom_sublist 0 rules indices
  cases edit with
  | replace replacement => exact absurd rfl (hedit replacement)
  | add input =>
    obtain ⟨entered, -, rfl⟩ := h
    exact (hsublist _).trans (List.sublist_append_left rules _)
  | update index input =>
    -- here and where rules are switched, the list keeps its length, and only the named places may differ
    obtain ⟨hlength, hagree, -⟩ := leaves_of_gives h
    exact without_sublist_of_agree hlength fun place hplace =>
      hagree place (List.ne_of_not_mem_cons hplace)
  | delete index =>
    obtain ⟨-, rfl⟩ := h
    exact (without_singleton rules index).symm ▸ List.Sublist.refl _
  | deleteMany indices =>
    obtain ⟨-, rfl⟩ := h
    rw [eraseAll_eq_without]
    exact List.Sublist.refl _
  | importRules imported =>
    obtain rfl := h
    exact (hsublist _).trans (List.sublist_append_left rules _)
  | duplicate index =>
    obtain ⟨source, -, rfl⟩ := h
    exact (hsublist _).trans (List.sublist_append_left rules _)
  | setEnabled indices flag =>
    obtain ⟨hlength, hplaces⟩ := leaves_of_gives h
    refine without_sublist_of_agree hlength fun place hplace => ?_
    simp [hplaces, show place ∉ indices from hplace]

/-- **What a change leaves alone.**  Unless a whole new list is saved, the rules that a change does not name
are still there, as they are and in their order, and the new list is known place by place.  A change is
refused for the first of its indices at which there is no rule, whatever is entered; where there are rules
at all of them, it is refused exactly if what is entered is not accepted. -/
theorem apply_frame (hedit : ∀ replacement, edit ≠ replace replacement) (now : Instant) (rules : List Rule) :
    (∀ rules', edit.apply now rules = .ok rules' →
      (without rules edit.named).Sublist rules' ∧ edit.Leaves now rules rules') ∧
    (∀ i len, edit.apply now rules = .error (.ruleIndex i len) ↔
      FirstBeyond rules edit.named i ∧ len = rules.length) ∧
    ∀ why, edit.apply now rules = .error (.validation why) ↔
      (∀ i ∈ edit.named, i < rules.length) ∧ ∃ input ∈ edit.input?, input.validate now = .error why := by
  refine ⟨fun rules' happly => ?_, fun i len => apply_eq_ruleIndex_iff, fun why => apply_eq_validation_iff⟩
  have hgives := apply_eq_ok_iff.mp happly
  exact ⟨sublist_of_gives hgives hedit, leaves_of_gives hgives⟩

/-- The second of two rules is entered anew, and so is one that is not there, with nothing in the form. -/
theorem apply_frame_of_update :
    let old : Rule := { (default : Rule) with createdAt := ⟨5, by decide, by decide⟩, enabled := true }
    let entered := (RuleInput.plain "a" "x").toRule "a" .epoch
    (∃ rules', (update 1 (.plain " a " "x")).apply .epoch [default, old] = .ok rules' ∧
      [default].Sublist rules' ∧ rules'[0]? = some default ∧
      rules'[1]? = some { entered with createdAt := old.createdAt, enabled := true }) ∧
    (update 2 (.plain "" "")).apply .epoch [default, old] = .error (.ruleIndex 2 2) := by
  intro old entered
  have hedit (index : Nat) (input : RuleInput) (replacement : List Rule) :
      update index input ≠ replace replacement := nofun
  have htrim : Text.trim " a " = "a" := by decide +kernel
  have hentered : (RuleInput.plain " a " "x").validate .epoch = .ok entered := by
    rw [RuleInput.validate_eq_ok_iff, show (RuleInput.plain " a " "x").pattern = " a " from rfl, htrim]
    exact ⟨rfl, rfl⟩
  have happly : (update 1 (.plain " a " "x")).apply .epoch [default, old] =
      .ok [default, { entered with createdAt := old.createdAt, enabled := true }] :=
    apply_eq_ok_iff.mpr ⟨old, _, rfl, Rule.revise_eq_ok_iff.mpr ⟨entered, hentered, rfl⟩, rfl⟩
  obtain ⟨hsublist, -, hagree, _, _, hold, hvalidate, hnew⟩ :=
    (apply_frame (hedit 1 (.plain " a " "x")) .epoch [default, old]).1 _ happly
  cases hold
  cases hentered.symm.trans hvalidate
  refine ⟨⟨_, happly, hsublist, hagree 0 (by decide), hnew⟩, ?_⟩
  exact ((apply_frame (hedit 2 (.plain "" "")) .epoch [default, old]).2.1 2 2).mpr
    ⟨firstBeyond_singleton.mpr ⟨rfl, Nat.le_refl 2⟩, rfl⟩

end ReplyRules.Edit
