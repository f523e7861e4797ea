/-!
Binary floating-point numbers with 53 digits, by their value: rounding to the nearest, products and
quotients, and the shortest decimal that rounds to a number.
-/

namespace ReplyRules.Number

/-- The number `mantissa * 2 ^ exponent`, negative or not.  A zero may be negative too. -/
structure Binary64 where
  negative : Bool
  mantissa : Nat
  exponent : Int
  deriving DecidableEq, Repr, Inhabited

namespace Binary64

/-- The least exponent. -/
def minExponent : Int := -1074

/-- The greatest exponent. -/
def maxExponent : Int := 971

/-- The quotient of two numbers rounded to the nearest whole number; of two that are equally near, the
even one. -/
def roundedQuotient (num den : Nat) : Nat :=
  let q := num / den
  let r := num % den
  if 2 * r < den then q else if den < 2 * r then q + 1 else q + q % 2

/-- The fraction `num / den` times `2 ^ (-e)`, as a fraction. -/
def scaled (num den : Nat) (e : Int) : Nat × Nat :=
  if 0 ≤ e then (num, den * Nat.pow 2 e.toNat) else (num * Nat.pow 2 (-e).toNat, den)

/-- The number nearest to `num / den`; none where that is beyond the greatest number. -/
def ofRatio (num den : Nat) : Option Binary64 :=
  if num == 0 then some ⟨false, 0, minExponent⟩
  else
    let guess : Int := (num.log2 : Int) - (den.log2 : Int)
    let high := if (scaled num den guess).1 < (scaled num den guess).2 then guess - 1 else guess
    let e := max (high - 52) minExponent
    let m := roundedQuotient (scaled num den e).1 (scaled num den e).2
    let (m, e) := if m == Nat.pow 2 53 then (Nat.pow 2 52, e + 1) else (m, e)
    if maxExponent < e then none else some ⟨false, m, e⟩

/-- The number nearest to a whole number. -/
def ofNat (n : Nat) : Option Binary64 := ofRatio n 1

/-- The value as a fraction, without its sign. -/
def ratio (x : Binary64) : Nat × Nat :=
  if 0 ≤ x.exponent then (x.mantissa * Nat.pow 2 x.exponent.toNat, 1)
  else (x.mantissa, Nat.pow 2 (-x.exponent).toNat)

/-- The product, rounded. -/
def mul (x y : Binary64) : Option Binary64 :=
  ofRatio (x.ratio.1 * y.ratio.1) (x.ratio.2 * y.ratio.2)

/-- The quotient by a number that is not zero, rounded. -/
def div (x y : Binary64) : Option Binary64 :=
  ofRatio (x.ratio.1 * y.ratio.2) (x.ratio.2 * y.ratio.1)

/-- The number with the given sign. -/
def withSign (x : Binary64) (negative : Bool) : Binary64 := { x with negative := negative }

/-- Whether the number is zero. -/
def isZero (x : Binary64) : Bool := x.mantissa == 0

/-! ### Shortest decimals -/

/-- The decimal digits of a number, the first one first. -/
def decimalDigits (n : Nat) : List Char := (Nat.toDigits 10 n)

/-- Whether the fraction rounds to the number: it lies between the points half way to the neighbours,
or on one of them when the mantissa is even. -/
def rounds (x : Binary64) (num den : Nat) : Bool :=
  let (vn, vd) := x.ratio
  let unit : Nat × Nat :=
    if 0 ≤ x.exponent then (Nat.pow 2 x.exponent.toNat, 1) else (1, Nat.pow 2 (-x.exponent).toNat)
  let narrow := x.mantissa == Nat.pow 2 52 && minExponent < x.exponent
  let below := if narrow then 4 else 2
  let even := x.mantissa % 2 == 0
  -- above: num / den ≤ vn / vd + unit / 2, both sides times 2 * den * vd
  let high := 2 * den * vn + den * unit.1 * (vd / unit.2)
  let above := 2 * num * vd
  -- under: vn / vd - unit / below ≤ num / den, both sides times below * den * vd
  let low := below * den * vn - den * unit.1 * (vd / unit.2)
  let under := below * num * vd
  (above < high || (even && above == high)) && (low < under || (even && low == under))

/-- The digits `n` with the point `k` places behind the last one, as a fraction. -/
def decimalRatio (n : Nat) (k : Int) : Nat × Nat :=
  if 0 ≤ k then (n * Nat.pow 10 k.toNat, 1) else (n, Nat.pow 10 (-k).toNat)

/-- The decimal with a last digit at place `k` that rounds to the number, if there is one; of two, the
nearer. -/
def decimalAt? (x : Binary64) (k : Int) : Option Nat :=
  let (vn, vd) := x.ratio
  let (num, den) : Nat × Nat :=
    if 0 ≤ k then (vn, vd * Nat.pow 10 k.toNat) else (vn * Nat.pow 10 (-k).toNat, vd)
  let near := roundedQuotient num den
  let fits := fun n => n != 0 && x.rounds (decimalRatio n k).1 (decimalRatio n k).2
  [near, near - 1, near + 1].find? fits

/-- The place of the first decimal digit. -/
def leadingPlace (x : Binary64) : Int :=
  let (vn, vd) := x.ratio
  if vd ≤ vn then ((decimalDigits (vn / vd)).length : Int) - 1
  else -((decimalDigits ((vd + vn - 1) / vn - 1)).length : Int)

/-- The shortest decimal that rounds to the number: its digits, and the place of the last one. -/
def shortest (x : Binary64) : Nat × Int :=
  let top := x.leadingPlace
  let places := (List.range 19).map fun (n : Nat) => top + 1 - (n : Int)
  ((places.findSome? fun k => (x.decimalAt? k).map (·, k)).getD (x.mantissa, 0))

/-- The digits without the zeros at their end, and the place of the last one. -/
def dropZeros : Nat → Nat → Int → Nat × Int
  | 0, n, k => (n, k)
  | fuel + 1, n, k => if n % 10 == 0 then dropZeros fuel (n / 10) (k + 1) else (n, k)

/-- The text of a number: positional with at least one place behind the point where the first digit is
at most sixteen places before the point and five behind it, else with an exponent that has a sign. -/
def toText (x : Binary64) : String :=
  let sign := if x.negative then "-" else ""
  if x.isZero then sign ++ "0.0"
  else
    let (n, k) := x.shortest
    let (n, k) := dropZeros 20 n k
    let digits := decimalDigits n
    let point : Int := k + digits.length
    let zeros := fun (m : Int) => List.replicate m.toNat '0'
    let body : List Char :=
      if 0 ≤ k && point ≤ 16 then digits ++ zeros k ++ ['.', '0']
      else if 0 < point && point ≤ 16 then
        digits.take point.toNat ++ ['.'] ++ digits.drop point.toNat
      else if -5 < point && point ≤ 0 then ['0', '.'] ++ zeros (-point) ++ digits
      else
        let e := point - 1
        let mark := ['e', if e < 0 then '-' else '+'] ++ decimalDigits e.natAbs
        match digits with
        | [d] => d :: mark
        | d :: ds => d :: '.' :: ds ++ mark
        | [] => mark
    sign ++ String.ofList body

end Binary64

end ReplyRules.Number
