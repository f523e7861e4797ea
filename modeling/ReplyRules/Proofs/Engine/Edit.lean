import ReplyRules.Engine.Edit
import Mathlib.Data.List.Basic

/-!
What a change makes of a list of rules.  A change is made exactly when all its indices are those of rules
and what is entered is accepted, and the list is then known (`Edit.Gives`, `Edit.apply_eq_ok_iff`).
-/

namespace ReplyRules.Edit

variable {now : Instant} {r : Rule} {rules rules' : List Rule} {index : Nat} {indices : List Nat}

/-! ### Indices -/

theorem ruleAt_eq_ok_iff : ruleAt rules index = .ok r ↔ rules[index]? = some r := by
  rw [ruleAt]
  cases rules[index]? with
  | none => exact ⟨nofun, nofun⟩
  | some r' => rw [Except.ok.injEq, Option.some.injEq]

theorem checkIndices_eq_ok_iff :
    checkIndices rules indices = .ok () ↔ ∀ i ∈ indices, i < rules.length := by
  rw [checkIndices]
  cases hfind : indices.find? fun i => rules.length ≤ i with
  | none =>
    refine ⟨fun _ i hi => ?_, fun _ => rfl⟩
    simpa using List.find?_eq_none.mp hfind i hi
  | some i =>
    refine ⟨nofun, fun h => absurd (h i (List.mem_of_find?_eq_some hfind)) ?_⟩
    simpa using List.find?_some hfind

/-! ### Changes -/

/-- The change is made, and this is the list that it gives. -/
def Gives (now : Instant) (rules rules' : List Rule) : Edit → Prop
  | replace replacement => rules' = replacement
  | add input => ∃ r, input.validate now = .ok r ∧ rules' = rules ++ [r]
  | update index input =>
    ∃ r revised, rules[index]? = some r ∧ r.revise input now = .ok revised ∧
      rules' = rules.set index revised
  | delete index => index < rules.length ∧ rules' = rules.eraseIdx index
  | deleteMany indices => (∀ i ∈ indices, i < rules.length) ∧ rules' = eraseAll rules indices
  | importRules imported => rules' = rules ++ Rule.complete imported
  | duplicate index => ∃ r, rules[index]? = some r ∧ rules' = rules ++ [r.copy now]
  | setEnabled indices enabled =>
    (∀ i ∈ indices, i < rules.length) ∧ rules' = switchAll rules indices enabled

theorem map_eq_ok_iff {α β : Type} {x : Except EditError α} {f : α → β} {b : β} :
    x.map f = .ok b ↔ ∃ a, x = .ok a ∧ b = f a := by
  cases x with
  | error err => simp [Except.map]
  | ok a => simp [Except.map, eq_comm]

theorem map_checkIndices_eq_ok_iff {result : List Rule} :
    (checkIndices rules indices).map (fun _ => result) = .ok rules' ↔
      (∀ i ∈ indices, i < rules.length) ∧ rules' = result := by
  simp only [map_eq_ok_iff, exists_and_right, ← checkIndices_eq_ok_iff]
  refine and_congr_left' ⟨?_, fun h => ⟨(), h⟩⟩
  rintro ⟨_, h⟩
  exact h

/-- **What a change gives.** -/
theorem apply_eq_ok_iff {edit : Edit} : edit.apply now rules = .ok rules' ↔ edit.Gives now rules rules' := by
  cases edit with
  | replace replacement => simp [apply, Gives, eq_comm]
  | add input =>
    rw [apply, Gives]
    cases input.validate now with
    | error err => simp
    | ok r => simp [eq_comm]
  | update index input =>
    rw [apply, Gives]
    simp only [← ruleAt_eq_ok_iff]
    cases ruleAt rules index with
    | error err => simp
    | ok r =>
      cases hrevise : r.revise input now with
      | error err => simp [hrevise]
      | ok revised => simp [hrevise, eq_comm]
  | delete index =>
    rw [apply, Gives, map_eq_ok_iff]
    simp only [ruleAt_eq_ok_iff, exists_and_right, List.getElem?_eq_some_iff]
    refine and_congr_left' ⟨?_, fun hindex => ⟨rules[index], hindex, rfl⟩⟩
    rintro ⟨r, hindex, -⟩
    exact hindex
  | deleteMany indices => exact map_checkIndices_eq_ok_iff
  | importRules imported => simp [apply, Gives, eq_comm]
  | duplicate index => simp only [apply, Gives, map_eq_ok_iff, ruleAt_eq_ok_iff]
  | setEnabled indices enabled => exact map_checkIndices_eq_ok_iff

end ReplyRules.Edit
