import ReplyRules.Proofs.Engine.Edit
import Mathlib.Data.List.Nodup

/-!
Changes to many rules at once.  The rules to be taken out or switched are given by their indices, in any
order and with repetitions.  An index at which there is no rule refuses the whole change, and it is the
first one of them that is told (`Edit.FirstBeyond`, `Edit.checkIndices_eq_error_iff`).

Rules are taken out one after the other, and each one that goes moves those behind it.  Because the greatest
index goes first, what it moves is no longer asked for: the rules that are left are those at the other places
of the list as it was (`Edit.without`, `Edit.eraseAll_eq_without`).  Switching moves nothing, and switching
twice is switching once (`Edit.switchAll_eq_mapIdx`).

Main result: both changes are told by the places that are in the list of indices, and each index is in range
when its turn comes (`Edit.apply_batch`).
-/

namespace ReplyRules.Edit

variable {now : Instant} {r : Rule} {rules rules' : List Rule} {indices indices' : List Nat}
  {index i n : Nat} {flag : Bool} {e : EditError}

/-! ### Indices at which there is no rule -/

/-- Of the indices, it is the first one at which there is no rule. -/
def FirstBeyond (rules : List Rule) (indices : List Nat) (i : Nat) : Prop :=
  ∃ before behind, indices = before ++ i :: behind ∧ (∀ j ∈ before, j < rules.length) ∧ rules.length ≤ i

theorem ruleAt_eq_error_iff :
    ruleAt rules index = .error e ↔ rules.length ≤ index ∧ e = .ruleIndex index rules.length := by
  rw [ruleAt, ← List.getElem?_eq_none_iff]
  cases rules[index]? with
  | none => simp [eq_comm]
  | some r => simp

theorem checkIndices_eq_error_iff :
    checkIndices rules indices = .error e ↔
      ∃ i, FirstBeyond rules indices i ∧ e = .ruleIndex i rules.length := by
  have hfind (i : Nat) :
      (indices.find? fun i => rules.length ≤ i) = some i ↔ FirstBeyond rules indices i := by
    rw [List.find?_eq_some_iff_append, FirstBeyond]
    simp only [decide_eq_true_eq, Bool.not_eq_eq_eq_not, Bool.not_true, decide_eq_false_iff_not, Nat.not_le]
    constructor
    · rintro ⟨hle, before, behind, hsplit, hbefore⟩
      exact ⟨before, behind, hsplit, hbefore, hle⟩
    · rintro ⟨before, behind, hsplit, hbefore, hle⟩
      exact ⟨hle, before, behind, hsplit, hbefore⟩
  rw [checkIndices]
  cases h : indices.find? fun i => rules.length ≤ i with
  | none => simp [← hfind, h]
  | some i => simp [← hfind, h, eq_comm]

theorem map_eq_error_iff {α β : Type} {x : Except EditError α} {f : α → β} :
    x.map f = .error e ↔ x = .error e := by
  cases x <;> simp [Except.map]

theorem exists_firstBeyond (h : ∃ i ∈ indices, rules.length ≤ i) : ∃ i, FirstBeyond rules indices i := by
  cases hcheck : checkIndices rules indices with
  | ok _ =>
    obtain ⟨i, hi, hle⟩ := h
    exact absurd (checkIndices_eq_ok_iff.mp hcheck i hi) (Nat.not_lt_of_le hle)
  | error e =>
    obtain ⟨i, hi, -⟩ := checkIndices_eq_error_iff.mp hcheck
    exact ⟨i, hi⟩

/-! ### The rules at other places -/

/-- The rules whose places are none of the indices, where places are counted from `n`. -/
def withoutFrom (n : Nat) (rules : List Rule) (indices : List Nat) : List Rule :=
  ((rules.zipIdx n).filter fun placed => placed.2 ∉ indices).map Prod.fst

/-- The rules whose places are none of the indices. -/
def without (rules : List Rule) (indices : List Nat) : List Rule := withoutFrom 0 rules indices

theorem withoutFrom_cons :
    withoutFrom n (r :: rules) indices =
      if n ∈ indices then withoutFrom (n + 1) rules indices
      else r :: withoutFrom (n + 1) rules indices := by
  rw [withoutFrom, List.zipIdx_cons, List.filter_cons]
  by_cases h : n ∈ indices <;> simp [h, withoutFrom]

theorem withoutFrom_append :
    withoutFrom n (rules ++ rules') indices =
      withoutFrom n rules indices ++ withoutFrom (n + rules.length) rules' indices := by
  rw [withoutFrom, List.zipIdx_append, List.filter_append, List.map_append]
  rfl

/-- The order of the indices does not matter, nor how often one is there. -/
theorem withoutFrom_congr (h : ∀ i, i ∈ indices' ↔ i ∈ indices) :
    withoutFrom n rules indices' = withoutFrom n rules indices := by
  simp only [withoutFrom, h]

theorem withoutFrom_of_lt (h : ∀ i ∈ indices, i < n) : withoutFrom n rules indices = rules := by
  induction rules generalizing n with
  | nil => rfl
  | cons r rules ih =>
    have hn : n ∉ indices := fun hn => Nat.lt_irrefl n (h n hn)
    rw [withoutFrom_cons, if_neg hn, ih fun i hi => Nat.lt_succ_of_lt (h i hi)]

theorem withoutFrom_sublist (n : Nat) (rules : List Rule) (indices : List Nat) :
    (withoutFrom n rules indices).Sublist rules := by
  have hsublist := (List.filter_sublist (l := rules.zipIdx n)
    (p := fun placed => placed.2 ∉ indices)).map Prod.fst
  rwa [List.zipIdx_map_fst] at hsublist

/-- Where a rule has been taken out behind all that is still to go, the others can be looked for at the
places that they had before. -/
theorem withoutFrom_eraseIdx (h : ∀ j ∈ indices, j < n + i) :
    withoutFrom n (rules.eraseIdx i) indices = withoutFrom n rules ((n + i) :: indices) := by
  induction rules generalizing n i with
  | nil => rfl
  | cons r rules ih =>
    cases i with
    | zero =>
      -- the first rule goes, and no index reaches the others
      simp only [Nat.add_zero] at h ⊢
      have hbehind : ∀ j ∈ n :: indices, j < n + 1 :=
        List.forall_mem_cons.mpr ⟨Nat.lt_succ_self n, fun j hj => Nat.lt_succ_of_lt (h j hj)⟩
      rw [List.eraseIdx_cons_zero, withoutFrom_cons, if_pos List.mem_cons_self,
        withoutFrom_of_lt h, withoutFrom_of_lt hbehind]
    | succ i =>
      have hplace : n + 1 + i = n + (i + 1) := by omega
      have hn : n ∈ (n + (i + 1)) :: indices ↔ n ∈ indices := by
        rw [List.mem_cons, or_iff_right (by omega)]
      rw [List.eraseIdx_cons_succ, withoutFrom_cons, withoutFrom_cons, ih (hplace ▸ h), hplace]
      simp only [hn]

/-! ### One after the other -/

/-- Each index is that of a rule when its turn comes. -/
def StaysInRange (step : List Rule → Nat → List Rule) : List Rule → List Nat → Prop
  | _, [] => True
  | rules, i :: indices => i < rules.length ∧ StaysInRange step (step rules i) indices

theorem mem_descending : i ∈ descending indices ↔ i ∈ indices := by
  rw [descending, List.mem_mergeSort, List.mem_eraseDups]

theorem nodup_eraseDups (indices : List Nat) : indices.eraseDups.Nodup := by
  induction hlength : indices.length using Nat.strongRecOn generalizing indices with
  | _ n ih =>
    cases indices with
    | nil => exact List.nodup_nil
    | cons i indices =>
      have hshorter : (indices.filter fun j => !j == i).length < n := by
        rw [← hlength]
        exact Nat.lt_succ_of_le (List.length_filter_le _ _)
      rw [List.eraseDups_cons, List.nodup_cons]
      exact ⟨by simp [List.mem_eraseDups], ih _ hshorter _ rfl⟩

theorem pairwise_descending (indices : List Nat) : (descending indices).Pairwise (· > ·) := by
  have hsorted : (descending indices).Pairwise fun a b => decide (b ≤ a) = true :=
    List.pairwise_mergeSort (by simp only [decide_eq_true_eq]; omega)
      (by simp only [Bool.or_eq_true, decide_eq_true_eq]; omega) _
  have hnodup : (descending indices).Nodup :=
    (List.mergeSort_perm _ _).nodup_iff.mpr (nodup_eraseDups indices)
  refine (hsorted.and hnodup).imp fun {a b} h => ?_
  exact Nat.lt_of_le_of_ne (of_decide_eq_true h.1) (Ne.symm h.2)

/-- **The greatest goes first**, and what is left are the rules at the other places. -/
theorem foldl_eraseIdx_eq_without (h : indices.Pairwise (· > ·)) :
    indices.foldl List.eraseIdx rules = without rules indices := by
  induction indices generalizing rules with
  | nil => exact (withoutFrom_of_lt (List.forall_mem_nil _)).symm
  | cons i indices ih =>
    rw [List.pairwise_cons] at h
    -- all other indices are smaller, so what they name has not moved
    have hsmaller : ∀ j ∈ indices, j < 0 + i := by simpa using h.1
    rw [List.foldl_cons, ih h.2, without, withoutFrom_eraseIdx hsmaller, Nat.zero_add, without]

theorem eraseAll_eq_without (rules : List Rule) (indices : List Nat) :
    eraseAll rules indices = without rules indices := by
  refine (foldl_eraseIdx_eq_without (pairwise_descending indices)).trans ?_
  exact withoutFrom_congr fun i => mem_descending

/-- What has gone stood behind all that is still to go. -/
theorem staysInRange_eraseIdx (h : indices.Pairwise (· > ·)) (hrange : ∀ i ∈ indices, i < rules.length) :
    StaysInRange List.eraseIdx rules indices := by
  induction indices generalizing rules with
  | nil => trivial
  | cons i indices ih =>
    rw [List.pairwise_cons] at h
    rw [List.forall_mem_cons] at hrange
    refine ⟨hrange.1, ih h.2 fun j hj => ?_⟩
    have hlt : j < i := h.1 j hj
    rw [List.length_eraseIdx_of_lt hrange.1]
    omega

/-- The rule with its switch moved. -/
def switched (flag : Bool) (r : Rule) : Rule := { r with enabled := flag }

theorem staysInRange_modify (hrange : ∀ i ∈ indices, i < rules.length) :
    StaysInRange (fun rules i => rules.modify i (switched flag)) rules indices := by
  induction indices generalizing rules with
  | nil => trivial
  | cons i indices ih =>
    rw [List.forall_mem_cons] at hrange
    refine ⟨hrange.1, ih fun j hj => ?_⟩
    rw [List.length_modify]
    exact hrange.2 j hj

/-- **Switching is told place by place.** -/
theorem getElem?_switchAll (rules : List Rule) (indices : List Nat) (flag : Bool) (place : Nat) :
    (switchAll rules indices flag)[place]? =
      rules[place]?.map fun r => if place ∈ indices then switched flag r else r := by
  rw [switchAll]
  induction indices generalizing rules with
  | nil => simp
  | cons i indices ih =>
    rw [List.foldl_cons, ih, List.getElem?_modify]
    cases rules[place]? with
    | none => rfl
    | some r =>
      -- where the place comes again, it is switched to what it has been switched to
      by_cases hi : i = place
      · by_cases hplace : place ∈ indices <;> simp [hi, hplace, switched]
      · simp [hi, Ne.symm hi]

theorem switchAll_eq_mapIdx (rules : List Rule) (indices : List Nat) (flag : Bool) :
    switchAll rules indices flag =
      rules.mapIdx fun place r => if place ∈ indices then { r with enabled := flag } else r := by
  refine List.ext_getElem? fun place => ?_
  rw [getElem?_switchAll, List.getElem?_mapIdx]
  rfl

theorem eraseAll_congr (h : ∀ i, i ∈ indices' ↔ i ∈ indices) :
    eraseAll rules indices' = eraseAll rules indices := by
  rw [eraseAll_eq_without, eraseAll_eq_without, without, without, withoutFrom_congr h]

theorem switchAll_congr (h : ∀ i, i ∈ indices' ↔ i ∈ indices) :
    switchAll rules indices' flag = switchAll rules indices flag := by
  simp only [switchAll_eq_mapIdx, h]

/-! ### Whole changes -/

/-- Whether there are rules at all of the indices is a matter of what indices there are. -/
theorem toOption_map_checkIndices_congr (h : ∀ i, i ∈ indices' ↔ i ∈ indices) (result : List Rule) :
    ((checkIndices rules indices').map fun _ => result).toOption =
      ((checkIndices rules indices).map fun _ => result).toOption := by
  have hok : checkIndices rules indices' = .ok () ↔ checkIndices rules indices = .ok () := by
    simp only [checkIndices_eq_ok_iff, h]
  cases hcheck : checkIndices rules indices with
  | ok _ => rw [hok.mpr hcheck]
  | error e =>
    cases hcheck' : checkIndices rules indices' with
    | ok _ =>
      rw [hok.mp hcheck'] at hcheck
      cases hcheck
    | error e' => rfl

/-- **Many rules at once.**  If there is no rule at some index, both changes are refused for the first such
index.  Otherwise they are made, and each index is in range when its turn comes: exactly the rules at the
other places are left, as they are and in their order; or exactly those at the given places have the given
switch, and all else is as it was.  Lists with the same indices, in any order and with any repetitions, give
the same list of rules, or none of them gives one, and then each of them is told its own first such index. -/
theorem apply_batch (now : Instant) (rules : List Rule) (indices : List Nat) (flag : Bool) :
    let delete (indices : List Nat) := (deleteMany indices).apply now rules
    let switch (indices : List Nat) := (setEnabled indices flag).apply now rules
    ((∃ i ∈ indices, rules.length ≤ i) →
      ∃ i, FirstBeyond rules indices i ∧ delete indices = .error (.ruleIndex i rules.length) ∧
        switch indices = .error (.ruleIndex i rules.length)) ∧
    ((∀ i ∈ indices, i < rules.length) →
      StaysInRange List.eraseIdx rules (descending indices) ∧
      delete indices = .ok (without rules indices) ∧
      StaysInRange (fun rules i => rules.modify i (switched flag)) rules indices ∧
      switch indices = .ok
        (rules.mapIdx fun place r => if place ∈ indices then { r with enabled := flag } else r)) ∧
    ∀ indices', (∀ i, i ∈ indices' ↔ i ∈ indices) →
      (delete indices').toOption = (delete indices).toOption ∧
      (switch indices').toOption = (switch indices).toOption := by
  intro delete switch
  refine ⟨fun hbeyond => ?_, fun hrange => ?_, fun indices' hsame => ⟨?_, ?_⟩⟩
  · obtain ⟨i, hi⟩ := exists_firstBeyond hbeyond
    have hcheck := checkIndices_eq_error_iff.mpr ⟨i, hi, rfl⟩
    exact ⟨i, hi, map_eq_error_iff.mpr hcheck, map_eq_error_iff.mpr hcheck⟩
  · have hdescending : ∀ i ∈ descending indices, i < rules.length :=
      fun i hi => hrange i (mem_descending.mp hi)
    refine ⟨staysInRange_eraseIdx (pairwise_descending indices) hdescending, ?_,
      staysInRange_modify hrange, ?_⟩
    · exact map_checkIndices_eq_ok_iff.mpr ⟨hrange, (eraseAll_eq_without rules indices).symm⟩
    · exact map_checkIndices_eq_ok_iff.mpr ⟨hrange, (switchAll_eq_mapIdx rules indices flag).symm⟩
  · show ((checkIndices rules indices').map fun _ => eraseAll rules indices').toOption = _
    rw [eraseAll_congr hsame]
    exact toOption_map_checkIndices_congr hsame _
  · show ((checkIndices rules indices').map fun _ => switchAll rules indices' flag).toOption = _
    rw [switchAll_congr hsame]
    exact toOption_map_checkIndices_congr hsame _

/-- The first and the third of four rules, given in disorder and one of them twice; and two indices at which
there is no rule. -/
theorem apply_batch_in_disorder :
    let rule (note : String) : Rule := { (default : Rule) with note := note, enabled := true }
    let rules := [rule "a", rule "b", rule "c", rule "d"]
    (deleteMany [2, 0, 2]).apply .epoch rules = .ok [rule "b", rule "d"] ∧
      (setEnabled [0, 2] false).apply .epoch rules =
        .ok [{ rule "a" with enabled := false }, rule "b", { rule "c" with enabled := false }, rule "d"] ∧
      ((deleteMany [0, 2]).apply .epoch rules).toOption = some [rule "b", rule "d"] ∧
      FirstBeyond rules [1, 9, 4] 9 ∧
      (deleteMany [1, 9, 4]).apply .epoch rules = .error (.ruleIndex 9 4) := by
  intro rule rules
  obtain ⟨-, hdone, hsame⟩ := apply_batch .epoch rules [2, 0, 2] false
  obtain ⟨-, hdelete, -⟩ := hdone (by decide)
  obtain ⟨-, -, -, hswitch⟩ := (apply_batch .epoch rules [0, 2] false).2.1 (by decide)
  obtain ⟨i, hi, hrefused, -⟩ :=
    (apply_batch .epoch rules [1, 9, 4] false).1 ⟨9, by decide, by decide⟩
  have hnine : (deleteMany [1, 9, 4]).apply .epoch rules = .error (.ruleIndex 9 4) := rfl
  obtain rfl : 9 = i := by
    cases hnine.symm.trans hrefused
    rfl
  refine ⟨hdelete, hswitch, ?_, hi, hnine⟩
  rw [(hsame [0, 2] (by simp)).1, hdelete]
  rfl

end ReplyRules.Edit
