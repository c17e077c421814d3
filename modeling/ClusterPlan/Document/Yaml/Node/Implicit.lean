import ClusterPlan.Document.Yaml.Node
import ClusterPlan.Document
import ClusterPlan.Text.Cut

/-!
# Scalars without a tag

What a scalar written without quotes and without a tag stands for. Words and numerals are told from
other text by their form alone; the forms are those of version 1.1 of the format, in which `yes` and
`on` are flags, a leading zero means radix eight, and colons separate digits in radix sixty.

`Tag.ofPlain` gives the kind of value. The forms overlap, so their order matters: a flag, a real
number, an integer, the merge key, null, a moment, the default key.
-/

namespace ClusterPlan.Yaml

open ClusterPlan.Text

/-! ## Forms of numerals -/

/-- A digit or an underscore. -/
def isSpacedDigit (c : Char) : Bool := c.isDigit || c == '_'

/-- What follows an optional sign. -/
def afterSign : List Char → List Char
  | '+' :: cs => cs
  | '-' :: cs => cs
  | cs => cs

/-- The digits of radix sixty after the first group: a colon and a number below sixty, at least
once. -/
def isSixtieths : List (List Char) → Bool
  | [] => false
  | groups => groups.all fun
    | [d] => d.isDigit
    | [t, d] => '0' ≤ t && t ≤ '5' && d.isDigit
    | _ => false

/-- A number that does not begin with zero, with underscores. -/
def isSpacedNumeral : List Char → Bool
  | [] => false
  | c :: cs => c.isDigit && c != '0' && cs.all isSpacedDigit

/-- The form of an integer. -/
def isInteger (cs : List Char) : Bool :=
  match afterSign cs with
  | ['0'] => true
  | '0' :: 'b' :: digits => !digits.isEmpty && digits.all fun c => c == '0' || c == '1' || c == '_'
  | '0' :: 'x' :: digits => !digits.isEmpty && digits.all fun c => isHexDigit c || c == '_'
  | '0' :: digits => digits.all fun c => ('0' ≤ c && c ≤ '7') || c == '_'
  | unsigned =>
    match splitOn ':' unsigned with
    | [] => false
    | [whole] => isSpacedNumeral whole
    | whole :: groups => isSpacedNumeral whole && isSixtieths groups

/-- The form of an exponent, which has a sign, or nothing. -/
def isExponent : List Char → Bool
  | [] => true
  | e :: sign :: digits =>
    (e == 'e' || e == 'E') && (sign == '+' || sign == '-') && !digits.isEmpty &&
      digits.all Char.isDigit
  | _ => false

/-- A digit first, then digits and underscores. -/
def isSpacedDigits : List Char → Bool
  | [] => false
  | c :: cs => c.isDigit && cs.all isSpacedDigit

/-- The form of a real number, which has a point. -/
def isReal (cs : List Char) : Bool :=
  let unsigned := afterSign cs
  let whole := unsigned.takeWhile (· != '.')
  let places := (unsigned.dropWhile (· != '.')).drop 1
  let afterPlaces := places.dropWhile isSpacedDigit
  if !unsigned.contains '.' then false
  else if whole.isEmpty then
    [".inf", ".Inf", ".INF"].any (·.toList == unsigned) ||
    [".nan", ".NaN", ".NAN"].any (·.toList == cs) ||
    (cs.head? == some '.' && isSpacedDigits (places.takeWhile isSpacedDigit) &&
      isExponent afterPlaces)
  else
    (isSpacedDigits whole && isExponent afterPlaces) ||
    (match splitOn ':' whole with
      | first :: second :: groups =>
        isSpacedDigits first && isSixtieths (second :: groups) && afterPlaces.isEmpty
      | _ => false)

/-! ## Moments -/

/-- The number that at least `least` and at most two digits at the beginning denote, with what
follows them. -/
def readField (least : Nat) (cs : List Char) : Option (Nat × List Char) :=
  let digits := (cs.take 2).takeWhile Char.isDigit
  if digits.length < least then none
  else some (digits.foldl (fun value d => value * 10 + (d.toNat - 0x30)) 0, cs.drop digits.length)

/-- What follows a character. -/
def after? (c : Char) : List Char → Option (List Char)
  | [] => none
  | d :: cs => if d = c then some cs else none

/-- A date and, with it, whether month and day have two digits each, and what follows. -/
def readDate (cs : List Char) : Option ((Nat × Nat × Nat) × Bool × List Char) := do
  let (century, cs) ← readField 2 cs
  let (year, cs) ← readField 2 cs
  let afterYear ← after? '-' cs
  let (month, cs) ← readField 1 afterYear
  let afterMonth ← after? '-' cs
  let (day, cs) ← readField 1 afterMonth
  let full := afterYear.length - afterMonth.length == 3 && afterMonth.length - cs.length == 2
  return ((century * 100 + year, month, day), full, cs)

/-- The offset from universal time in minutes at the end of a moment, if one is given. -/
def readOffset (cs : List Char) : Option (Option Int) := do
  if cs.isEmpty then return none
  match cs.dropWhile isSpacing with
  | ['Z'] => return some 0
  | sign :: cs =>
    if sign != '+' && sign != '-' then none
    else
      let (hours, cs) ← readField 1 cs
      let (minutes, cs) ← match cs with
        | ':' :: cs => readField 2 cs
        | cs => some (0, cs)
      if !cs.isEmpty then none
      else
        let offset : Int := hours * 60 + minutes
        return some (if sign == '-' then -offset else offset)
  | [] => none

/-- The six digits of the microseconds, cut off or filled up. -/
def microseconds (digits : List Char) : Nat :=
  let six := digits.take 6
  six.foldl (fun value d => value * 10 + (d.toNat - 0x30)) 0 * tenTo (6 - six.length)

/-- The moment that a text denotes by its form, which may not exist, and whether its date is written
in full. A date alone has neither a time nor an offset. -/
def readMoment (cs : List Char) : Option (Moment × Bool × Bool) := do
  let ((year, month, day), full, cs) ← readDate cs
  match cs with
  | [] => return (⟨year, month, day, 0, 0, 0, 0, none⟩, full, true)
  | c :: rest =>
    if !(c == 'T' || c == 't' || isSpacing c) then none
    else
      let cs := if isSpacing c then rest.dropWhile isSpacing else rest
      let (hour, cs) ← readField 1 cs
      let cs ← after? ':' cs
      let (minute, cs) ← readField 2 cs
      let cs ← after? ':' cs
      let (second, cs) ← readField 2 cs
      let (fraction, cs) := match cs with
        | '.' :: cs => (cs.takeWhile Char.isDigit, cs.dropWhile Char.isDigit)
        | cs => ([], cs)
      let offset ← readOffset cs
      return (⟨year, month, day, hour, minute, second, microseconds fraction, offset⟩, full, false)

/-- The form of a moment or of a full date. -/
def isMoment (cs : List Char) : Bool :=
  match readMoment cs with
  | some (_, full, dateOnly) => full || !dateOnly
  | none => false

/-! ## Kinds -/

/-- The words that are flags. -/
def flagWords : List String :=
  ["yes", "Yes", "YES", "no", "No", "NO", "true", "True", "TRUE", "false", "False", "FALSE",
    "on", "On", "ON", "off", "Off", "OFF"]

/-- The words that are null. -/
def nullWords : List String := ["~", "null", "Null", "NULL"]

/-- The kind of value of a scalar without a tag. A break at its end does not count. -/
def Tag.ofPlain (cs : List Char) : Tag :=
  let word := if cs.getLast? == some '\n' then cs.dropLast else cs
  if cs.isEmpty then .null
  else if flagWords.any (·.toList == word) then .flag
  else if isReal word then .real
  else if isInteger word then .int
  else if word == ['<', '<'] then .merge
  else if nullWords.any (·.toList == word) then .null
  else if isMoment word then .moment
  else if word == ['='] then .default
  else if [['!'], ['&'], ['*']].contains word then .unknown
  else .text

end ClusterPlan.Yaml
