import ClusterPlan.Binary64
import ClusterPlan.Document
import ClusterPlan.Numeral
import ClusterPlan.Shape.Problem

/-!
# Scalars of a wanted kind

Which scalars of a document count as a text, an integer or a flag. Definitions are written by hand
and by tools that quote too much, so an integer may also be written as a text, as a whole real
number or as a flag, and a flag as a word or as zero or one. A text is never made out of anything
but a text, or bytes that are one, and it need not consist of characters.
-/

namespace ClusterPlan.Coercion

open ClusterPlan.Text

/-! ## Texts -/

/-- The text that a scalar is, if it is one. -/
def readText : Scalar → Except Flaw Wording
  | .text s => .ok (.text s)
  | .broken codes => .ok (.broken codes)
  | .bytes bs =>
    match String.fromUTF8? (ByteArray.mk bs.toArray) with
    | some s => .ok (.text s)
    | none => .error .brokenText
  | _ => .error .noText

/-! ## Integers -/

/-- The most characters of a numeral without its leading zeros: sign and digits. -/
def numeralLimit : Nat := Numeral.digitLimit

/-- The integer that a bare numeral denotes: digits without leading zeros, and perhaps a minus sign
before them. A numeral that is too long is refused for that, whatever follows it. -/
def readBare (cs : List Char) : Except Flaw Int :=
  let (negative, unsigned) := match cs with
    | '-' :: rest => (true, rest)
    | rest => (false, rest)
  let digits := unsigned.takeWhile Char.isDigit
  let length := digits.length + if negative then 1 else 0
  if digits.isEmpty || (digits.head? == some '0' && 1 < digits.length) then
    .error .unreadableInteger
  else if numeralLimit < length then .error .oversizeInteger
  else if digits.length != unsigned.length then .error .unreadableInteger
  else
    let value : Int := Numeral.ofDigits digits
    .ok (if negative then -value else value)

/-- The characters from the last one of some leading zeros on, of which `last` has been passed. A
minus sign ends the zeros as another digit does. -/
def afterZeros (last : Char) : List Char → Option (List Char)
  | [] => some [last]
  | c :: cs =>
    if c == '0' || c == '_' then afterZeros c cs
    else if c == '.' then some (last :: c :: cs)
    else if c.isDigit || c == '-' then some (c :: cs)
    else none

/-- A numeral without leading zeros. -/
def dropZeros : List Char → Option (List Char)
  | [] => none
  | c :: cs =>
    if c == '0' then afterZeros c cs
    else if c.isDigit then some (c :: cs)
    else none

/-- A numeral without a fraction that consists of zeros. -/
def dropZeroFraction (cs : List Char) : List Char :=
  let places := (cs.dropWhile (· != '.')).drop 1
  if !places.isEmpty && places.all (· == '0') then cs.takeWhile (· != '.') else cs

/-- Two underscores stand side by side. -/
def hasDoubleSpacer : List Char → Bool
  | '_' :: '_' :: _ => true
  | _ :: cs => hasDoubleSpacer cs
  | [] => false

/-- A numeral without the single underscores between its characters. -/
def dropSpacers (cs : List Char) : List Char :=
  if cs.head? == some '_' || cs.getLast? == some '_' || hasDoubleSpacer cs then cs
  else cs.filter (· != '_')

/-- Digits in plain spelling: no leading zeros, no fraction of zeros, no underscores. -/
def tidyDigits? (cs : List Char) : Option (List Char) :=
  (dropZeros cs).map fun digits => dropSpacers (dropZeroFraction digits)

/-- A numeral in plain spelling: no white space around it, no plus sign, and plain digits. -/
def tidy? (cs : List Char) : Option (List Char) :=
  match trim isWhiteSpace cs with
  | '+' :: digits => tidyDigits? digits
  | '-' :: digits => (tidyDigits? digits).map fun digits => '-' :: digits
  | digits => tidyDigits? digits

/-- The integer that a text denotes. -/
def readNumeral (cs : List Char) : Except Flaw Int :=
  match readBare cs with
  | .error .unreadableInteger =>
    match tidy? cs with
    | some tidied => readBare tidied
    | none => .error .unreadableInteger
  | result => result

/-- An integer that fits into 64 bits with a sign. -/
def isShort (i : Int) : Bool :=
  -(twoTo 63 : Int) ≤ i && i < twoTo 63

/-- The integer that a real number is, if it has no fraction and fits into 64 bits. -/
def readWhole (x : Binary64) : Except Flaw Int :=
  match x with
  | .nan => .error .notFinite
  | .infinite _ => .error .notFinite
  | _ =>
    match x.toInt? with
    | none => .error .fraction
    | some i => if -(twoTo 63 : Int) < i && i < twoTo 63 then .ok i else .error .oversizeInteger

/-- The integer that a scalar counts as. -/
def readInt : Scalar → Except Flaw Int
  | .int i => .ok i
  | .flag b => .ok (if b then 1 else 0)
  | .real x => readWhole x
  | .text s => readNumeral s.toList
  | .broken _ => .error .brokenText
  | .bytes bs =>
    match String.fromUTF8? (ByteArray.mk bs.toArray) with
    | some s => readNumeral s.toList
    | none => .error .unreadableInteger
  | _ => .error .noInteger

/-! ## Flags -/

/-- The flag that a word stands for, whatever the case of its letters. -/
def readWord (s : String) : Except Flaw Bool :=
  let word := String.ofList (s.toList.map Char.toLower)
  if ["1", "true", "t", "yes", "y", "on"].contains word then .ok true
  else if ["0", "false", "f", "no", "n", "off"].contains word then .ok false
  else .error .unreadableFlag

/-- The flag that an integer stands for. -/
def flagOfInt (i : Int) : Except Flaw Bool :=
  if i = 0 then .ok false
  else if i = 1 then .ok true
  else if isShort i then .error .unreadableFlag
  else .error .noFlag

/-- The flag that a scalar counts as. -/
def readFlag : Scalar → Except Flaw Bool
  | .flag b => .ok b
  | .int i => flagOfInt i
  | .real x =>
    match readWhole x with
    | .ok i => flagOfInt i
    | .error _ => .error .noFlag
  | .text s => readWord s
  | .broken _ => .error .brokenText
  | .bytes bs =>
    match String.fromUTF8? (ByteArray.mk bs.toArray) with
    | some s => readWord s
    | none => .error .unreadableFlag
  | _ => .error .noFlag

end ClusterPlan.Coercion
