import ClusterPlan.Power
import ClusterPlan.Text.Blank
import ClusterPlan.Text.Digit

/-!
# Integer numerals

How an integer is written in a setting, a duration or a plain scalar, and which integers can be
written in a diagnostic.

A numeral is an optional sign and digits, with single underscores allowed between digits and ASCII
or wide blanks around the whole. Decimal digits of any script count as the ASCII digit of the same
value. In radix 2, 8 and 16 the digits may follow the mark `0b`, `0o` or `0x`.

A decimal numeral has at most `digitLimit` digits, leading zeros included, and an integer with more
digits than that cannot be written out (`isWritable`). The other radices have no limit.
-/

namespace ClusterPlan.Numeral

open ClusterPlan.Text

/-- The most digits that a decimal numeral may have. -/
def digitLimit : Nat := 4300

/-- An integer short enough to be written in decimal. -/
def isWritable (i : Int) : Bool :=
  i.natAbs < tenTo digitLimit

/-- A wide blank as a space and a decimal digit of any script as its ASCII digit. -/
def plain (c : Char) : Char :=
  if isWideBlank c then ' '
  else match decimalDigit? c with
    | some d => Char.ofNat (0x30 + d)
    | none => c

/-- The value and the number of the digits of a text in which single underscores may stand between
digits, continuing from a value and a count; the flag says whether a digit came last. -/
def readDigits (radix : Nat) (value count : Nat) (afterDigit : Bool) :
    List Char → Option (Nat × Nat)
  | [] => if afterDigit then some (value, count) else none
  | c :: cs =>
    if c = '_' then
      if afterDigit then readDigits radix value count false cs else none
    else match hexDigit? c with
      | some d =>
        if d < radix then readDigits radix (value * radix + d) (count + 1) true cs else none
      | none => none

/-- The letter that marks a radix after a zero. -/
def radixMark? : Nat → Option Char
  | 2 => some 'b'
  | 8 => some 'o'
  | 16 => some 'x'
  | _ => none

/-- The digits of a numeral after its radix mark, with the one underscore that may follow the
mark. -/
def dropRadixMark (radix : Nat) (cs : List Char) : List Char :=
  match radixMark? radix, cs with
  | some mark, '0' :: c :: rest =>
    if c.toLower = mark then
      match rest with
      | '_' :: digits => digits
      | digits => digits
    else cs
  | _, _ => cs

/-- The sign of a numeral and what follows it. -/
def cutSign : List Char → Bool × List Char
  | '+' :: cs => (false, cs)
  | '-' :: cs => (true, cs)
  | cs => (false, cs)

/-- The integer that a text denotes in a radix. -/
def read (radix : Nat) (cs : List Char) : Option Int :=
  let (negative, unsigned) := cutSign (trim isAsciiBlank (cs.map plain))
  match readDigits radix 0 0 false (dropRadixMark radix unsigned) with
  | some (value, count) =>
    if radix = 10 && digitLimit < count then none
    else some (if negative then -(value : Int) else value)
  | none => none

/-- The value of a run of decimal digits of any script. -/
def ofDigits (cs : List Char) : Nat :=
  cs.foldl (fun value c => value * 10 + (decimalDigit? c).getD 0) 0

end ClusterPlan.Numeral
