import ReplyRules.Text.Utf8

/-!
Base64: three bytes as four symbols of six bits each.  The last group may be shorter and is filled up
with `=`.  Decoding is strict: it wants the filling, and no bits behind the last byte.
-/

namespace ReplyRules.Base64

/-- The filling byte. -/
def padByte : UInt8 := 0x3D

/-- The symbol of a number below 64. -/
def symbol (n : Nat) : UInt8 :=
  if n < 26 then UInt8.ofNat (0x41 + n)
  else if n < 52 then UInt8.ofNat (0x61 + (n - 26))
  else if n < 62 then UInt8.ofNat (0x30 + (n - 52))
  else if n == 62 then 0x2B else 0x2F

/-- The number of a symbol. -/
def value? (b : UInt8) : Option Nat :=
  if 0x41 ≤ b && b ≤ 0x5A then some (b.toNat - 0x41)
  else if 0x61 ≤ b && b ≤ 0x7A then some (b.toNat - 0x61 + 26)
  else if 0x30 ≤ b && b ≤ 0x39 then some (b.toNat - 0x30 + 52)
  else if b == 0x2B then some 62
  else if b == 0x2F then some 63
  else none

/-! ### Encoding -/

/-- The symbols of a sequence of bytes. -/
def encode : Bytes → Bytes
  | [] => []
  | [a] => [symbol (a.toNat / 4), symbol (a.toNat % 4 * 16), padByte, padByte]
  | [a, b] =>
    [symbol (a.toNat / 4), symbol (a.toNat % 4 * 16 + b.toNat / 16), symbol (b.toNat % 16 * 4), padByte]
  | a :: b :: c :: rest =>
    symbol (a.toNat / 4) :: symbol (a.toNat % 4 * 16 + b.toNat / 16) ::
      symbol (b.toNat % 16 * 4 + c.toNat / 64) :: symbol (c.toNat % 64) :: encode rest

/-! ### Decoding -/

/-- Why a text is not decoded. -/
inductive DecodeError where
  /-- A byte that cannot stand where it does. -/
  | invalidByte (offset : Nat) (symbol : UInt8)
  /-- The text ends within a byte. -/
  | invalidLength (length : Nat)
  /-- There are bits behind the last byte. -/
  | invalidLastSymbol (offset : Nat) (symbol : UInt8)
  /-- The filling is missing or too long. -/
  | invalidPadding
  deriving DecidableEq, Repr

/-- The text of an error. -/
def DecodeError.message : DecodeError → String
  | invalidByte offset symbol =>
    "Invalid symbol " ++ toString symbol.toNat ++ ", offset " ++ toString offset ++ "."
  | invalidLength length => "Invalid input length: " ++ toString length
  | invalidLastSymbol offset symbol =>
    "Invalid last symbol " ++ toString symbol.toNat ++ ", offset " ++ toString offset ++ "."
  | invalidPadding => "Invalid padding"

/-- The number of the symbol at an offset. -/
def valueAt (offset : Nat) (b : UInt8) : Except DecodeError Nat :=
  match value? b with
  | some n => .ok n
  | none => .error (.invalidByte offset b)

/-- The three bytes of four numbers. -/
def joined (a b c d : Nat) : Bytes :=
  [UInt8.ofNat (a * 4 + b / 16), UInt8.ofNat (b % 16 * 16 + c / 4), UInt8.ofNat (c % 4 * 64 + d)]

/-- The numbers of the symbols in the last group, which begins at `start`, and how many filling bytes
follow them.  `index` is the place in the group. -/
def lastGroup (start index : Nat) : Bytes → Except DecodeError (List Nat × Nat)
  | [] => .ok ([], 0)
  | b :: rest =>
    if b == padByte then
      if index < 2 then .error (.invalidByte (start + index) b)
      else if rest.all (· == padByte) then .ok ([], rest.length + 1)
      else .error (.invalidByte (start + index) b)
    else do
      let n ← valueAt (start + index) b
      let (ns, fill) ← lastGroup start (index + 1) rest
      return (n :: ns, fill)

/-- The bytes of the last group. -/
def decodeLast (start : Nat) (bytes : Bytes) : Except DecodeError Bytes := do
  let (ns, fill) ← lastGroup start 0 bytes
  if ns.length < 2 && 0 < start + bytes.length then .error (.invalidLength (start + ns.length))
  else if (ns.length + fill) % 4 ≠ 0 then .error .invalidPadding
  else
    let spill := fun (out : Bytes) (bits : Nat) =>
      if bits == 0 then .ok out
      else .error (.invalidLastSymbol (start + ns.length - 1) ((bytes[ns.length - 1]?).getD 0))
    match ns with
    | [a, b, c, d] => .ok (joined a b c d)
    | [a, b, c] => spill ((joined a b c 0).take 2) (c % 4)
    | [a, b] => spill ((joined a b 0 0).take 1) (b % 16)
    | _ => .ok []

/-- The bytes of the groups from an offset on. -/
def decodeFrom (start : Nat) : Bytes → Except DecodeError Bytes
  | a :: b :: c :: d :: e :: rest => do
    let a ← valueAt start a
    let b ← valueAt (start + 1) b
    let c ← valueAt (start + 2) c
    let d ← valueAt (start + 3) d
    let more ← decodeFrom (start + 4) (e :: rest)
    return joined a b c d ++ more
  | bytes => decodeLast start bytes

/-- A byte that stands alone in the last group and is neither a symbol nor filling. -/
def strayByte? (bytes : Bytes) : Option UInt8 :=
  if bytes.length % 4 == 1 then
    bytes.getLast?.filter fun b => b != padByte && (value? b).isNone
  else none

/-- The bytes a sequence of symbols stands for. -/
def decode (bytes : Bytes) : Except DecodeError Bytes :=
  match strayByte? bytes with
  | some b => .error (.invalidByte (bytes.length - 1) b)
  | none => decodeFrom 0 bytes

end ReplyRules.Base64
