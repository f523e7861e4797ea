import ReplyRules.Number.Binary64

/-!
JSON values.
-/

namespace ReplyRules

/-- The numbers of JSON texts: whole numbers that fit into 64 bits, by sign, and all others. -/
inductive JsonNumber where
  /-- A whole number from 0. -/
  | natural (n : Nat)
  /-- The whole number `-n`, for `n` from 1. -/
  | negative (n : Nat)
  /-- A number written with a point or an exponent, or beyond 64 bits. -/
  | float (x : Number.Binary64)
  deriving DecidableEq, Repr, Inhabited

/-- A JSON value.  The members of an object keep the order in which their keys came up first. -/
inductive Json where
  | null
  | bool (b : Bool)
  | number (n : JsonNumber)
  | string (s : String)
  | array (items : List Json)
  | object (members : List (String × Json))
  deriving Repr, Inhabited

namespace Json

/-- The members with the value of a key set. -/
def setMember (key : String) (value : Json) : List (String × Json) → List (String × Json)
  | [] => [(key, value)]
  | (k, v) :: members =>
    if k == key then (k, value) :: members else (k, v) :: setMember key value members

/-- The value of a key, if the value is an object that has it. -/
def member? (key : String) : Json → Option Json
  | object members => (members.find? (·.1 == key)).map (·.2)
  | _ => none

/-- The whole number `i` as a value. -/
def ofInt (i : Int) : Json :=
  if i < 0 then .number (.negative i.natAbs) else .number (.natural i.toNat)

/-- The number `n` as a value. -/
def ofNat (n : Nat) : Json := .number (.natural n)

end Json

end ReplyRules
