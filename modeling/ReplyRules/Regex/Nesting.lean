import ReplyRules.Regex.SyntaxError

/-!
How deep patterns may nest.  Groups, repetitions, alternations, sequences and classes each add a level;
the first part of a pattern that lies too deep is reported.
-/

namespace ReplyRules.Regex

/-- The number of levels a pattern may have. -/
def nestingLimit : Nat := 250

/-- Whether a part at the stretch `span` may have a level of its own above `depth` others. -/
def enterLevel (depth : Nat) (span : Span) : Except SyntaxError Unit :=
  if depth < nestingLimit then .ok () else refuse (.nestedTooDeep nestingLimit) span

mutual

/-- Checks the nesting of an item with `depth` levels around it. -/
def ClassItem.checkNesting (depth : Nat) : ClassItem → Except SyntaxError Unit
  | .bracketed span _ body => do
    enterLevel depth span
    body.checkNesting (depth + 1)
  | .union span items => do
    enterLevel depth span
    checkNestingOfItems (depth + 1) items
  | .binary span _ lhs rhs => do
    enterLevel depth span
    lhs.checkNesting (depth + 1)
    rhs.checkNesting (depth + 1)
  | _ => .ok ()

/-- Checks the nesting of the items one after the other. -/
def checkNestingOfItems (depth : Nat) : List ClassItem → Except SyntaxError Unit
  | [] => .ok ()
  | item :: items => do
    item.checkNesting depth
    checkNestingOfItems depth items

end

mutual

/-- Checks the nesting of a pattern with `depth` levels around it. -/
def Pattern.checkNesting (depth : Nat) : Pattern → Except SyntaxError Unit
  | .bracketed span _ body => do
    enterLevel depth span
    body.checkNesting (depth + 1)
  | .repetition span _ _ sub => do
    enterLevel depth span
    sub.checkNesting (depth + 1)
  | .group span _ _ sub => do
    enterLevel depth span
    sub.checkNesting (depth + 1)
  | .alternation span branches => do
    enterLevel depth span
    checkNestingOfAll (depth + 1) branches
  | .concat span parts => do
    enterLevel depth span
    checkNestingOfAll (depth + 1) parts
  | _ => .ok ()

/-- Checks the nesting of the patterns one after the other. -/
def checkNestingOfAll (depth : Nat) : List Pattern → Except SyntaxError Unit
  | [] => .ok ()
  | p :: ps => do
    p.checkNesting depth
    checkNestingOfAll depth ps

end

end ReplyRules.Regex
