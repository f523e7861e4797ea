import ReplyRules.Json.Value

/-!
Taking JSON values apart: texts, truth values, numbers, names from a fixed list, and the fields of
records.  A record may be an object, whose unknown keys do not matter, or a list of the values of its
fields in their order, from which the last ones may be missing.
-/

namespace ReplyRules.Json

/-- A text. -/
def text? : Json → Option String
  | .string s => some s
  | _ => none

/-- A truth value. -/
def bool? : Json → Option Bool
  | .bool b => some b
  | _ => none

/-- A whole number, negative or not. -/
def int? : Json → Option Int
  | .number (.natural n) => some n
  | .number (.negative n) => some (-(n : Int))
  | _ => none

/-- A whole number below `2 ^ 32`. -/
def uint32? : Json → Option UInt32
  | .number (.natural n) => if n < Nat.pow 2 32 then some (UInt32.ofNat n) else none
  | _ => none

/-- The elements of a list. -/
def array? : Json → Option (List Json)
  | .array items => some items
  | _ => none

/-- A name, as a text or as the only key of an object, with nothing behind it. -/
def name? : Json → Option String
  | .string s => some s
  | .object [(key, .null)] => some key
  | _ => none

/-- A value of its kind, or null for none. -/
def optional? (decode : Json → Option α) : Json → Option (Option α)
  | .null => some none
  | v => (decode v).map some

/-- A list of values of one kind. -/
def listOf? (decode : Json → Option α) (v : Json) : Option (List α) :=
  v.array?.bind fun items => items.mapM decode

/-- The record with the given fields, as an object. -/
def record? (fields : List String) : Json → Option Json
  | .object members => some (.object members)
  | .array items =>
    if items.length ≤ fields.length then some (.object (fields.zip items)) else none
  | _ => none

/-- A field of a record, or what stands for it where it is missing. -/
def field? (key : String) (decode : Json → Option α) (default : Option α) (record : Json) : Option α :=
  match record.member? key with
  | some v => decode v
  | none => default

end ReplyRules.Json
