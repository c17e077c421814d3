import ClusterPlan.Binary64.Decimal
import ClusterPlan.Document
import ClusterPlan.Numeral

/-!
# JSON

Reading JSON text into a document. Besides the standard the reader knows the words `NaN`,
`Infinity` and `-Infinity`, and lets an escaped surrogate stand alone in a text.

The reader goes from left to right and stops at the first fault, which it names together with the
position where it was found: the number of characters before it. A numeral without fraction and
exponent is an integer and may have at most a given number of digits.
-/

namespace ClusterPlan.Json

open ClusterPlan.Text

/-! ## Faults -/

/-- What is wrong at a position. -/
inductive Flaw where
  | noValue
  | noColon
  | noComma
  | noName
  | extraData
  | unterminated
  | badEscape
  | badCodePoint
  | controlCharacter
  | byteOrderMark
  deriving DecidableEq, Repr

/-- The wording of a flaw. -/
def Flaw.text : Flaw → String
  | noValue => "Expecting value"
  | noColon => "Expecting ':' delimiter"
  | noComma => "Expecting ',' delimiter"
  | noName => "Expecting property name enclosed in double quotes"
  | extraData => "Extra data"
  | unterminated => "Unterminated string starting at"
  | badEscape => "Invalid \\escape"
  | badCodePoint => "Invalid \\uXXXX escape"
  | controlCharacter => "Invalid control character at"
  | byteOrderMark => "Unexpected UTF-8 BOM (decode using utf-8-sig)"

/-- Why a text is no JSON document. -/
inductive Fault where
  /-- A flaw after a number of characters. -/
  | at (position : Nat) (flaw : Flaw)
  /-- An integer with too many digits. -/
  | overlong
  deriving DecidableEq, Repr

/-- The line of a position and its column in that line, both counted from one. -/
def lineColumn (cs : List Char) (position : Nat) : Nat × Nat :=
  let before := cs.take position
  (before.count '\n' + 1, (before.reverse.takeWhile (· != '\n')).length + 1)

/-- The wording of a flaw in a text, with its line, column and position. -/
def Flaw.message (flaw : Flaw) (cs : List Char) (position : Nat) : String :=
  let (line, column) := lineColumn cs position
  s!"{flaw.text}: line {line} column {column} (char {position})"

/-! ## Lexical parts -/

/-- A place in the text: how many characters come before it, and what follows. -/
structure Cursor where
  position : Nat
  rest : List Char

/-- The place some characters further on. -/
def Cursor.skip (c : Cursor) (n : Nat) : Cursor :=
  ⟨c.position + n, c.rest.drop n⟩

/-- A blank between tokens. -/
def isGap (c : Char) : Bool :=
  c == ' ' || c == '\t' || c == '\n' || c == '\r'

/-- The place after any blanks. -/
def Cursor.skipGap (c : Cursor) : Cursor :=
  c.skip (c.rest.takeWhile isGap).length

/-- The code point that four hexadecimal digits stand for. -/
def codePoint? (cs : List Char) : Option Nat :=
  if cs.length = 4 && cs.all isHexDigit then
    some (cs.foldl (fun value c => value * 16 + (hexDigit? c).getD 0) 0)
  else none

/-- The character that an escape letter stands for. -/
def escaped? : Char → Option Char
  | '"' => some '"'
  | '\\' => some '\\'
  | '/' => some '/'
  | 'b' => some '\x08'
  | 'f' => some '\x0c'
  | 'n' => some '\n'
  | 'r' => some '\r'
  | 't' => some '\t'
  | _ => none

/-- The first half of a surrogate pair. -/
def isHighSurrogate (code : Nat) : Bool := 0xD800 ≤ code && code ≤ 0xDBFF

/-- The second half of a surrogate pair. -/
def isLowSurrogate (code : Nat) : Bool := 0xDC00 ≤ code && code ≤ 0xDFFF

/-- The code point of a surrogate pair. -/
def joinSurrogates (high low : Nat) : Nat :=
  0x10000 + (high - 0xD800) * 0x400 + (low - 0xDC00)

/-- The code point of an escape whose letter `u` stands at a position, and the number of characters
from that letter on that it takes. -/
def readCodePoint (position : Nat) (afterU : List Char) : Except Fault (Nat × Nat) :=
  if afterU.length ≤ 4 then .error (.at position .badCodePoint)
  else match codePoint? (afterU.take 4) with
    | none => .error (.at position .badCodePoint)
    | some high =>
      match afterU.drop 4 with
      | '\\' :: 'u' :: second =>
        if isHighSurrogate high && 5 ≤ second.length then
          match codePoint? (second.take 4) with
          | none => .error (.at (position + 6) .badCodePoint)
          | some low =>
            if isLowSurrogate low then .ok (joinSurrogates high low, 11) else .ok (high, 5)
        else .ok (high, 5)
      | _ => .ok (high, 5)

/-- The code points of a text that began at a given position, up to its closing quote, and the place
after that. The counter says how many characters of an escape are still to be passed over. -/
def readText (start : Nat) : Nat → List Nat → Nat → List Char → Except Fault (List Nat × Cursor)
  | _, _, _, [] => .error (.at start .unterminated)
  | pending + 1, codes, position, _ :: rest => readText start pending codes (position + 1) rest
  | 0, codes, position, c :: rest =>
    if c = '"' then .ok (codes.reverse, ⟨position + 1, rest⟩)
    else if c = '\\' then
      match rest with
      | [] => .error (.at start .unterminated)
      | letter :: after =>
        if letter = 'u' then
          match readCodePoint (position + 1) after with
          | .ok (code, taken) =>
            readText start taken (code :: codes) (position + 1) (letter :: after)
          | .error e => .error e
        else match escaped? letter with
          | some e => readText start 1 (e.toNat :: codes) (position + 1) (letter :: after)
          | none => .error (.at position .badEscape)
    else if c.toNat ≤ 0x1F then .error (.at position .controlCharacter)
    else readText start 0 (c.toNat :: codes) (position + 1) rest

/-- The fraction that a text begins with: a point and its digits. -/
def fraction (cs : List Char) : List Char :=
  match cs with
  | '.' :: rest => rest.takeWhile Char.isDigit
  | _ => []

/-- The exponent that a text begins with: its sign, its digits and the number of characters. -/
def exponent? (cs : List Char) : Option (Bool × List Char × Nat) :=
  match cs with
  | c :: rest =>
    if c == 'e' || c == 'E' then
      let (below, signed, digits) := match rest with
        | '+' :: tail => (false, 1, tail.takeWhile Char.isDigit)
        | '-' :: tail => (true, 1, tail.takeWhile Char.isDigit)
        | tail => (false, 0, tail.takeWhile Char.isDigit)
      if digits.isEmpty then none else some (below, digits, 1 + signed + digits.length)
    else none
  | [] => none

/-- The digits before the point: a single zero, or digits that begin with another one. -/
def wholeDigits (cs : List Char) : List Char :=
  match cs with
  | '0' :: _ => ['0']
  | _ => cs.takeWhile Char.isDigit

/-- The number at a place, and the place after it. -/
def readNumber (limit : Option Nat) (c : Cursor) : Except Fault (Scalar × Cursor) :=
  let negative := c.rest.head? == some '-'
  let afterSign := if negative then c.skip 1 else c
  let whole := wholeDigits afterSign.rest
  if whole.isEmpty then .error (.at c.position .noValue)
  else
    let afterWhole := afterSign.skip whole.length
    let places := fraction afterWhole.rest
    let afterFraction :=
      if places.isEmpty then afterWhole else afterWhole.skip (places.length + 1)
    match exponent? afterFraction.rest with
    | some (below, digits, taken) =>
      .ok (.real (Binary64.ofParts negative whole places
        (Binary64.exponentOfDigits below digits)), afterFraction.skip taken)
    | none =>
      if places.isEmpty then
        if limit.any (· < whole.length) then .error .overlong
        else
          let value : Int := Binary64.natOfDigits whole
          .ok (.int (if negative then -value else value), afterWhole)
      else .ok (.real (Binary64.ofParts negative whole places 0), afterFraction)

/-- The words that stand for values. -/
def words : List (String × Scalar) :=
  [("null", .null), ("true", .flag true), ("false", .flag false), ("NaN", .real .nan),
    ("Infinity", .real (.infinite false)), ("-Infinity", .real (.infinite true))]

/-- The word at a place, with the value it stands for and its length. -/
def word? (cs : List Char) : Option (Scalar × Nat) :=
  (words.find? fun (w, _) => w.toList.isPrefixOf cs).map fun (w, s) => (s, w.length)

/-! ## Values -/

mutual

/-- The value at a place, and the place after it. The counter bounds the number of steps. -/
def readValue (limit : Option Nat) : Nat → Cursor → Except Fault (Document × Cursor)
  | 0, c => .error (.at c.position .noValue)
  | steps + 1, c =>
    match c.rest with
    | [] => .error (.at c.position .noValue)
    | '"' :: _ =>
      match readText c.position 0 [] (c.position + 1) (c.rest.drop 1) with
      | .ok (codes, after) => .ok (.scalar (Scalar.ofCodes codes), after)
      | .error e => .error e
    | '[' :: _ =>
      let inner := (c.skip 1).skipGap
      match inner.rest with
      | ']' :: _ => .ok (.list [], inner.skip 1)
      | _ => readItems limit steps [] inner
    | '{' :: _ =>
      let inner := (c.skip 1).skipGap
      match inner.rest with
      | '}' :: _ => .ok (.map [], inner.skip 1)
      | _ => readMembers limit steps [] inner
    | _ =>
      match word? c.rest with
      | some (s, length) => .ok (.scalar s, c.skip length)
      | none =>
        match readNumber limit c with
        | .ok (s, after) => .ok (.scalar s, after)
        | .error e => .error e

/-- The items of a list from a place on, after those read already, last first. -/
def readItems (limit : Option Nat) :
    Nat → List Document → Cursor → Except Fault (Document × Cursor)
  | 0, _, c => .error (.at c.position .noValue)
  | steps + 1, items, c =>
    match readValue limit steps c with
    | .error e => .error e
    | .ok (item, after) =>
      let next := after.skipGap
      match next.rest with
      | ']' :: _ => .ok (.list (item :: items).reverse, next.skip 1)
      | ',' :: _ => readItems limit steps (item :: items) (next.skip 1).skipGap
      | _ => .error (.at next.position .noComma)

/-- The members of a map from a place on, after those read already, last first. -/
def readMembers (limit : Option Nat) :
    Nat → List (Scalar × Document) → Cursor → Except Fault (Document × Cursor)
  | 0, _, c => .error (.at c.position .noName)
  | steps + 1, members, c =>
    match c.rest with
    | '"' :: _ =>
      match readText c.position 0 [] (c.position + 1) (c.rest.drop 1) with
      | .error e => .error e
      | .ok (codes, afterName) =>
        let colon := afterName.skipGap
        match colon.rest with
        | ':' :: _ =>
          match readValue limit steps (colon.skip 1).skipGap with
          | .error e => .error e
          | .ok (value, after) =>
            let next := after.skipGap
            let members := (Scalar.ofCodes codes, value) :: members
            match next.rest with
            | '}' :: _ => .ok (.map (Document.entriesOf members.reverse), next.skip 1)
            | ',' :: _ => readMembers limit steps members (next.skip 1).skipGap
            | _ => .error (.at next.position .noComma)
        | _ => .error (.at colon.position .noColon)
    | _ => .error (.at c.position .noName)

end

/-- The document that a JSON text denotes. Integers have at most `limit` digits, if a limit is
given. -/
def read (limit : Option Nat) (cs : List Char) : Except Fault Document :=
  if cs.head? == some '\ufeff' then .error (.at 0 .byteOrderMark)
  else
    match readValue limit (2 * cs.length + 2) (Cursor.mk 0 cs).skipGap with
    | .error e => .error e
    | .ok (d, after) =>
      let next := after.skipGap
      if next.rest.isEmpty then .ok d else .error (.at next.position .extraData)

end ClusterPlan.Json
