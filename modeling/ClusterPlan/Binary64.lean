import ClusterPlan.Power

/-!
# Binary floating-point numbers

The 64-bit binary numbers of documents and durations as transparent data: a finite number is a
sign, a significand below `2 ^ 53` and a power of two. Every operation is the exact result rounded
once, to the nearest number and to the even significand on a tie, so each of them comes down to
`ofRatio`, the rounding of a quotient of natural numbers.

Finite numbers are kept in the normal form that `ofRatio` gives: the significand has 53 bits
unless the power of two is the least one, `-1074`.
-/

namespace ClusterPlan

/-- A 64-bit binary floating-point number. -/
inductive Binary64 where
  /-- Not a number. -/
  | nan
  /-- An infinity with its sign. -/
  | infinite (negative : Bool)
  /-- `± significand * 2 ^ exponent`. -/
  | finite (negative : Bool) (significand : Nat) (exponent : Int)
  deriving DecidableEq, Repr, Inhabited

namespace Binary64

/-- The least power of two. -/
def minExponent : Int := -1074

/-- The greatest power of two. -/
def maxExponent : Int := 971

/-- Positive zero. -/
def zero : Binary64 := finite false 0 minExponent

/-! ## Rounding -/

/-- The integer nearest to a quotient, the even one of two that are equally near. -/
def roundHalfEven (num den : Nat) : Nat :=
  let floor := num / den
  let rest := num % den
  if 2 * rest < den then floor
  else if den < 2 * rest then floor + 1
  else if floor % 2 = 0 then floor
  else floor + 1

/-- A quotient divided by a power of two, as a quotient again. -/
def scale (num den : Nat) (exponent : Int) : Nat × Nat :=
  if exponent < 0 then (num * twoTo (-exponent).toNat, den)
  else (num, den * twoTo exponent.toNat)

/-- The power of two for which the significand of a positive quotient has 53 bits, or the least
power of two. -/
def exponentOf (num den : Nat) : Int :=
  let guess : Int := (Nat.log2 num : Int) - Nat.log2 den - 53
  let (n, d) := scale num den guess
  max minExponent (if twoTo 53 ≤ n / d then guess + 1 else guess)

/-- The number nearest to the quotient of two natural numbers, the second one positive. -/
def ofRatio (negative : Bool) (num den : Nat) : Binary64 :=
  if num = 0 then finite negative 0 minExponent
  else
    let exponent := exponentOf num den
    let (n, d) := scale num den exponent
    let significand := roundHalfEven n d
    let (significand, exponent) :=
      if significand = twoTo 53 then (twoTo 52, exponent + 1) else (significand, exponent)
    if maxExponent < exponent then infinite negative else finite negative significand exponent

/-- The number nearest to an integer. -/
def ofInt (i : Int) : Binary64 :=
  ofRatio (i < 0) i.natAbs 1

/-- The number nearest to `± digits * 10 ^ exponent`. -/
def ofDecimal (negative : Bool) (digits : Nat) (exponent : Int) : Binary64 :=
  let length : Int := (Nat.toDigits 10 digits).length
  if digits = 0 then finite negative 0 minExponent
  else if 310 < length + exponent then infinite negative
  else if length + exponent < -330 then finite negative 0 minExponent
  else if exponent < 0 then ofRatio negative digits (tenTo (-exponent).toNat)
  else ofRatio negative (digits * tenTo exponent.toNat) 1

/-! ## Arithmetic -/

/-- The exact value of a finite number as a quotient with a power of two below. -/
def ratio (significand : Nat) (exponent : Int) : Nat × Nat :=
  scale significand 1 (-exponent)

/-- The number with the other sign. -/
def neg : Binary64 → Binary64
  | nan => nan
  | infinite negative => infinite (!negative)
  | finite negative significand exponent => finite (!negative) significand exponent

/-- The rounded sum. -/
def add : Binary64 → Binary64 → Binary64
  | nan, _ => nan
  | _, nan => nan
  | infinite s, infinite t => if s = t then infinite s else nan
  | infinite s, finite .. => infinite s
  | finite .., infinite t => infinite t
  | finite s m e, finite t n f =>
    let low := min e f
    let left : Int := m * twoTo (e - low).toNat
    let right : Int := n * twoTo (f - low).toNat
    let sum := (if s then -left else left) + (if t then -right else right)
    if sum = 0 then finite (s && t) 0 minExponent
    else
      let (num, den) := ratio sum.natAbs low
      ofRatio (sum < 0) num den

/-- The rounded product. -/
def mul : Binary64 → Binary64 → Binary64
  | nan, _ => nan
  | _, nan => nan
  | infinite s, infinite t => infinite (s != t)
  | infinite s, finite t n _ => if n = 0 then nan else infinite (s != t)
  | finite s m _, infinite t => if m = 0 then nan else infinite (s != t)
  | finite s m e, finite t n f =>
    let (num, den) := ratio (m * n) (e + f)
    ofRatio (s != t) num den

/-- The rounded quotient of finite numbers, the second one not zero. -/
def div : Binary64 → Binary64 → Binary64
  | finite s m e, finite t n f =>
    if n = 0 then nan
    else
      let (num, den) := scale m n (f - e)
      ofRatio (s != t) num den
  | _, _ => nan

/-! ## Tests -/

/-- Zero of either sign. -/
def isZero : Binary64 → Bool
  | finite _ significand _ => significand == 0
  | _ => false

/-- The integer that a finite number is, if it is one. -/
def toInt? : Binary64 → Option Int
  | finite negative significand exponent =>
    let (num, den) := ratio significand exponent
    if num % den = 0 then
      some (if negative then -((num / den : Nat) : Int) else ((num / den : Nat) : Int))
    else none
  | _ => none

/-- A number strictly below an integer; not a number is below none. -/
def ltInt (x : Binary64) (i : Int) : Bool :=
  match x with
  | nan => false
  | infinite negative => negative
  | finite negative significand exponent =>
    let (num, den) := ratio significand exponent
    (if negative then -(num : Int) else (num : Int)) < i * den

/-- Numerically equal numbers: the two zeros are equal, and so are two that are not numbers. -/
def same (x y : Binary64) : Bool :=
  x == y || (x.isZero && y.isZero)

/-! ## The 64-bit word -/

/-- The word of a number: sign, biased exponent, fraction. -/
def toBits : Binary64 → Nat
  | nan => 0x7FF8000000000000
  | infinite negative => (if negative then twoTo 63 else 0) + 0x7FF0000000000000
  | finite negative significand exponent =>
    let sign := if negative then twoTo 63 else 0
    if significand < twoTo 52 then sign + significand
    else sign + (exponent + 1075).toNat * twoTo 52 + (significand - twoTo 52)

end Binary64

end ClusterPlan
