import ReplyRules.Rule.Validation
import ReplyRules.Rule.Exchange

/-!
Changes to a list of rules.  A change is refused as a whole or made as a whole.
-/

namespace ReplyRules

/-- Why a change is refused. -/
inductive EditError where
  | validation (e : ValidationError)
  /-- There is no rule at the index. -/
  | ruleIndex (index len : Nat)
  deriving DecidableEq, Repr

/-- The text of a refusal. -/
def EditError.message : EditError → String
  | validation e => e.message
  | ruleIndex index len =>
    "rule index " ++ toString index ++ " out of range for " ++ toString len ++ " rules"

/-- A change to a list of rules. -/
inductive Edit where
  | replace (rules : List Rule)
  | add (input : RuleInput)
  | update (index : Nat) (input : RuleInput)
  | delete (index : Nat)
  | deleteMany (indices : List Nat)
  /-- Appends the complete ones of the rules. -/
  | importRules (rules : List Rule)
  | duplicate (index : Nat)
  | setEnabled (indices : List Nat) (enabled : Bool)
  deriving DecidableEq, Repr

namespace Rule

/-- The note of a copy. -/
def copyNote (note : String) : String := if note = "" then "(copy)" else note ++ " (copy)"

/-- A copy, made now. -/
def copy (r : Rule) (now : Instant) : Rule :=
  { r with note := copyNote r.note, createdAt := now, updatedAt := now }

end Rule

namespace Edit

/-- The rule at an index. -/
def ruleAt (rules : List Rule) (index : Nat) : Except EditError Rule :=
  match rules[index]? with
  | some r => .ok r
  | none => .error (.ruleIndex index rules.length)

/-- Refuses the first index at which there is no rule. -/
def checkIndices (rules : List Rule) (indices : List Nat) : Except EditError Unit :=
  match indices.find? fun i => rules.length ≤ i with
  | some i => .error (.ruleIndex i rules.length)
  | none => .ok ()

/-- The indices without repetition, the greatest first. -/
def descending (indices : List Nat) : List Nat := indices.eraseDups.mergeSort fun a b => b ≤ a

/-- The list without the rules at some indices.  The greatest index goes first, so that the others stay
what they are. -/
def eraseAll (rules : List Rule) (indices : List Nat) : List Rule :=
  (descending indices).foldl (fun rules i => rules.eraseIdx i) rules

/-- The list with the rules at some indices switched on or off. -/
def switchAll (rules : List Rule) (indices : List Nat) (enabled : Bool) : List Rule :=
  indices.foldl (fun rules i => rules.modify i fun r => { r with enabled := enabled }) rules

/-- The list after a change. -/
def apply (now : Instant) (rules : List Rule) : Edit → Except EditError (List Rule)
  | replace replacement => .ok replacement
  | add input =>
    match input.validate now with
    | .ok r => .ok (rules ++ [r])
    | .error e => .error (.validation e)
  | update index input =>
    match ruleAt rules index with
    | .error e => .error e
    | .ok r =>
      match r.revise input now with
      | .ok r => .ok (rules.set index r)
      | .error e => .error (.validation e)
  | delete index => (ruleAt rules index).map fun _ => rules.eraseIdx index
  | deleteMany indices => (checkIndices rules indices).map fun _ => eraseAll rules indices
  | importRules imported => .ok (rules ++ Rule.complete imported)
  | duplicate index => (ruleAt rules index).map fun r => rules ++ [r.copy now]
  | setEnabled indices enabled =>
    (checkIndices rules indices).map fun _ => switchAll rules indices enabled

end Edit

end ReplyRules
