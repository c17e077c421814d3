import ClusterPlan.Text.Digit

/-!
# Places in a YAML text

The characters that the format tells apart, and a cursor that walks through a text while it counts
lines and columns. Indentation is measured in columns, so the count decides the structure of a
document: a line begins with column zero, and a byte order mark takes no column.

The end of the text is treated as one more character, NUL, which no readable text contains.
-/

namespace ClusterPlan.Yaml

open ClusterPlan.Text

/-- Why a text is no YAML document. -/
inductive Fault where
  /-- The text breaks a rule of the format. -/
  | malformed
  /-- A value is written correctly but does not exist, such as the thirteenth month, or there is no
  end to looking for it. -/
  | impossibleValue
  deriving DecidableEq, Repr

/-! ## Characters -/

/-- A character that may stand in a text. -/
def isReadable (c : Char) : Bool :=
  let n := c.toNat
  n == 0x09 || n == 0x0A || n == 0x0D || (0x20 ≤ n && n ≤ 0x7E) || n == 0x85 ||
    (0xA0 ≤ n && n ≤ 0xD7FF) || (0xE000 ≤ n && n ≤ 0xFFFD) || 0x10000 ≤ n

/-- The character that stands for the end of the text. -/
def finish : Char := '\x00'

/-- A character that ends a line. -/
def isBreak (c : Char) : Bool :=
  c == '\n' || c == '\x85' || c == '\u2028' || c == '\u2029'

/-- The end of a line or of the text. -/
def isLineEnd (c : Char) : Bool := c == finish || isBreak c

/-- A space, or the end of a line or of the text. -/
def isWordEnd (c : Char) : Bool := c == ' ' || isLineEnd c

/-- A space or a tab, or the end of a line or of the text. -/
def isGap (c : Char) : Bool := c == '\t' || isWordEnd c

/-- A space or a tab. -/
def isSpacing (c : Char) : Bool := c == ' ' || c == '\t'

/-- A character of an anchor's name, a directive's name or a tag's handle. -/
def isNameCharacter (c : Char) : Bool :=
  isAsciiAlnum c || c == '-' || c == '_'

/-- A character of a tag, apart from the percent sign of an escape. -/
def isTagCharacter (c : Char) : Bool :=
  isAsciiAlnum c || "-;/?:@&=+$,_.!~*'()[]".toList.contains c

/-- A bracket or a comma, which separate the parts of a collection written in brackets. -/
def isFlowMark (c : Char) : Bool :=
  c == ',' || c == '[' || c == ']' || c == '\x7b' || c == '\x7d'

/-! ## The cursor -/

/-- A place in a text. -/
structure Cursor where
  rest : List Char
  index : Nat
  line : Nat
  column : Nat

namespace Cursor

/-- The beginning of a text. -/
def ofText (cs : List Char) : Cursor := ⟨cs, 0, 0, 0⟩

/-- The character at a place. -/
def head (c : Cursor) : Char := c.rest.headD finish

/-- The character some places further on. -/
def peek (c : Cursor) (n : Nat) : Char := (c.rest.drop n).headD finish

/-- The place after a character. -/
def next (c : Cursor) : Cursor :=
  match c.rest with
  | [] => c
  | ch :: rest =>
    if isBreak ch then ⟨rest, c.index + 1, c.line + 1, 0⟩
    else ⟨rest, c.index + 1, c.line, if ch = '\ufeff' then c.column else c.column + 1⟩

/-- The place after a number of characters. -/
def skip : Nat → Cursor → Cursor
  | 0, c => c
  | n + 1, c => skip n c.next

/-- The characters of a class from a place on, and the place after them. -/
def span (p : Char → Bool) (c : Cursor) : List Char × Cursor :=
  let run := c.rest.takeWhile p
  (run, c.skip run.length)

/-- The place after all characters of a class. -/
def skipWhile (p : Char → Bool) (c : Cursor) : Cursor := (c.span p).2

/-- The place after spaces. -/
def skipSpaces (c : Cursor) : Cursor := c.skipWhile (· == ' ')

/-- The place after a comment, if one begins here. -/
def skipComment (c : Cursor) : Cursor :=
  if c.head = '#' then c.skipWhile (!isBreak ·) else c

/-- The break at a place, as it counts in a scalar, and the place after it. -/
def lineBreak? (c : Cursor) : Option (Char × Cursor) :=
  if isBreak c.head then some (if c.head = '\x85' then '\n' else c.head, c.next) else none

/-- Three hyphens or three points stand here and end a document. -/
def atDocumentMark (c : Cursor) : Bool :=
  (c.rest.take 3 == ['-', '-', '-'] || c.rest.take 3 == ['.', '.', '.']) && isGap (c.peek 3)

/-- The place after the rest of a line that holds no more than a comment. -/
def finishLine (c : Cursor) : Except Fault Cursor :=
  let c := c.skipSpaces.skipComment
  if isLineEnd c.head then .ok c.next else .error .malformed

end Cursor

end ClusterPlan.Yaml
