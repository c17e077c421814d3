import ClusterPlan.Binary64

/-!
# Decimal texts of binary numbers

Two ways to write a binary number in decimal. `fixed` writes a given count of decimal places, the
exact value rounded half to even. `shortest` writes the fewest digits that read back as the same
number, and of those the nearest to it, or the even ones of two that are equally near; the digits
stand in positional notation while the decimal point falls between the third place before the first
digit and the sixteenth after it, and with an exponent otherwise.

`readDecimal` reads the notation of plain scalars: digits with at most one point, and an exponent.
-/

namespace ClusterPlan.Binary64

/-- The decimal digits of a natural number. -/
def decimalDigits (n : Nat) : List Char := Nat.toDigits 10 n

/-- A decimal text padded on the left with zeros. -/
def padded (width : Nat) (digits : List Char) : List Char :=
  List.replicate (width - digits.length) '0' ++ digits

/-! ## A fixed count of places -/

/-- A number with a given count of decimal places, a half going to the even neighbour. -/
def fixed (places : Nat) : Binary64 → String
  | nan => "nan"
  | infinite negative => if negative then "-inf" else "inf"
  | finite negative significand exponent =>
    let (num, den) := ratio significand exponent
    let units := roundHalfEven (num * tenTo places) den
    let digits := padded (places + 1) (decimalDigits units)
    let whole := digits.take (digits.length - places)
    let fraction := digits.drop (digits.length - places)
    String.ofList ((if negative then ['-'] else []) ++ whole ++ '.' :: fraction)

/-! ## The fewest digits -/

/-- The place of the decimal point of a positive quotient: `p` with
`10 ^ (p - 1) ≤ num / den < 10 ^ p`. -/
def pointOf (num den : Nat) : Int :=
  if den ≤ num then (decimalDigits (num / den)).length
  else
    let length : Int := (decimalDigits (den / num)).length
    if den = num * tenTo (length - 1).toNat then 2 - length else 1 - length

/-- The grid point nearest to a number, the even one of two that are equally near, among the two
neighbours on the grid of steps `10 ^ k`, as far as these round to the number. -/
def gridPoint? (significand : Nat) (exponent k : Int) : Option Nat :=
  -- all quantities in units of a quarter of the number's last place
  let (num, den) := ratio (4 * significand) (exponent - 2)
  let below := if significand = twoTo 52 && minExponent < exponent then 1 else 2
  let (low, lowDen) := ratio (4 * significand - below) (exponent - 2)
  let (high, highDen) := ratio (4 * significand + 2) (exponent - 2)
  let (up, down) := if k < 0 then (tenTo (-k).toNat, 1) else (1, tenTo k.toNat)
  let floor := num * up / (den * down)
  let even := significand % 2 = 0
  let above (g : Nat) : Bool :=
    let point := g * down * lowDen
    if even then low * up ≤ point else low * up < point
  let under (g : Nat) : Bool :=
    let point := g * down * highDen
    if even then point ≤ high * up else point < high * up
  let fits (g : Nat) : Bool := above g && under g
  let toFloor := num * up - floor * (den * down)
  let toNext := (floor + 1) * (den * down) - num * up
  if fits floor && fits (floor + 1) then
    some (if toFloor < toNext || (toFloor == toNext && floor % 2 == 0) then floor else floor + 1)
  else if fits floor then some floor
  else if fits (floor + 1) then some (floor + 1)
  else none

/-- The shortest digits of a positive finite number and the place of their decimal point. -/
def shortestDigits (significand : Nat) (exponent : Int) : List Char × Int :=
  let (num, den) := ratio significand exponent
  let point := pointOf num den
  let candidates := (List.range 17).filterMap fun (i : Nat) =>
    (gridPoint? significand exponent (point - (i + 1))).map fun g => (g, (i : Int) + 1)
  match candidates.head? with
  | some (g, count) =>
    let digits := decimalDigits g
    ((digits.reverse.dropWhile (· == '0')).reverse, point + digits.length - count)
  | none => (decimalDigits num, point)

/-- The fewest digits that read back as the same number. -/
def shortest : Binary64 → String
  | nan => "nan"
  | infinite negative => if negative then "-inf" else "inf"
  | finite negative significand exponent =>
    let sign := if negative then ['-'] else []
    if significand = 0 then String.ofList (sign ++ ['0', '.', '0'])
    else
      let (digits, point) := shortestDigits significand exponent
      let body :=
        if 16 < point || point < -3 then
          let shown := point - 1
          let mantissa := match digits with
            | first :: second :: rest => first :: '.' :: second :: rest
            | short => short
          mantissa ++ 'e' :: (if shown < 0 then '-' else '+') ::
            padded 2 (decimalDigits shown.natAbs)
        else if point ≤ 0 then
          '0' :: '.' :: (List.replicate (-point).toNat '0' ++ digits)
        else
          let whole := digits.take point.toNat
          let zeros := List.replicate (point.toNat - whole.length) '0'
          let fraction := digits.drop point.toNat
          whole ++ zeros ++ '.' :: (if fraction.isEmpty then ['0'] else fraction)
      String.ofList (sign ++ body)

/-! ## Reading -/

/-- The value of a run of ASCII digits. -/
def natOfDigits (cs : List Char) : Nat :=
  cs.foldl (fun value c => value * 10 + (c.toNat - 0x30)) 0

/-- The exponent that a text denotes, cut off where no finite number lies beyond. -/
def exponentOfDigits (negative : Bool) (cs : List Char) : Int :=
  let digits := cs.dropWhile (· == '0')
  let magnitude : Int := if digits.length < 12 then natOfDigits digits else tenTo 12
  if negative then -magnitude else magnitude

/-- The number written by digits before and after a point and a power of ten. -/
def ofParts (negative : Bool) (whole fraction : List Char) (exponent : Int) : Binary64 :=
  ofDecimal negative (natOfDigits (whole ++ fraction)) (exponent - fraction.length)

/-- The number that a decimal text without sign denotes: digits with at most one point among or
beside them, and an optional exponent. -/
def readDecimal (negative : Bool) (cs : List Char) : Option Binary64 :=
  let whole := cs.takeWhile Char.isDigit
  let afterWhole := cs.dropWhile Char.isDigit
  let (fraction, afterFraction) := match afterWhole with
    | '.' :: rest => (rest.takeWhile Char.isDigit, rest.dropWhile Char.isDigit)
    | rest => ([], rest)
  if whole.isEmpty && fraction.isEmpty then none
  else match afterFraction with
    | [] => some (ofParts negative whole fraction 0)
    | c :: rest =>
      if c == 'e' || c == 'E' then
        let (below, digits) := match rest with
          | '+' :: ds => (false, ds)
          | '-' :: ds => (true, ds)
          | ds => (false, ds)
        if digits.isEmpty || !digits.all Char.isDigit then none
        else some (ofParts negative whole fraction (exponentOfDigits below digits))
      else none

end ClusterPlan.Binary64
