import ClusterPlan.Document.Yaml.Token

/-!
# Quoted scalars

Scalars between single or double quotes. A break and the spacing around it count as one space, and
further breaks count as themselves. Between single quotes a doubled quote stands for one; between
double quotes a backslash begins an escape, which may denote any code point, surrogates included.
-/

namespace ClusterPlan.Yaml.Quoted

open ClusterPlan.Text

/-- The code point that an escape letter stands for. -/
def escaped? : Char → Option Nat
  | '0' => some 0x00
  | 'a' => some 0x07
  | 'b' => some 0x08
  | 't' => some 0x09
  | '\t' => some 0x09
  | 'n' => some 0x0A
  | 'v' => some 0x0B
  | 'f' => some 0x0C
  | 'r' => some 0x0D
  | 'e' => some 0x1B
  | ' ' => some 0x20
  | '"' => some 0x22
  | '\\' => some 0x5C
  | '/' => some 0x2F
  | 'N' => some 0x85
  | '_' => some 0xA0
  | 'L' => some 0x2028
  | 'P' => some 0x2029
  | _ => none

/-- The number of hexadecimal digits after an escape letter. -/
def hexWidth? : Char → Option Nat
  | 'x' => some 2
  | 'u' => some 4
  | 'U' => some 8
  | _ => none

/-- The breaks of empty lines from a place on, after those passed already, last first. No line may
begin with a document mark. -/
def emptyLines : Nat → List Char → Cursor → Except Fault (List Char × Cursor)
  | 0, _, _ => .error .malformed
  | steps + 1, breaks, c =>
    if c.atDocumentMark then .error .malformed
    else
      let c := c.skipWhile isSpacing
      match c.lineBreak? with
      | some (b, after) => emptyLines steps (b :: breaks) after
      | none => .ok (breaks.reverse, c)

/-- What a break counts for, given the breaks of the empty lines after it. -/
def folded (first : Char) (breaks : List Char) : List Char :=
  if first != '\n' then first :: breaks
  else if breaks.isEmpty then [' '] else breaks

/-- The code points that the spacing at a place counts for. -/
def readSpacing (c : Cursor) : Except Fault (List Nat × Cursor) := do
  let (spacing, c) := c.span isSpacing
  if c.rest.isEmpty then throw .malformed
  match c.lineBreak? with
  | some (b, c) =>
    let (breaks, c) ← emptyLines (c.rest.length + 1) [] c
    return ((folded b breaks).map Char.toNat, c)
  | none => return (spacing.map Char.toNat, c)

/-- The code points of an escape, from its backslash on. -/
def readEscape (c : Cursor) : Except Fault (List Nat × Cursor) := do
  let c := c.next
  if let some code := escaped? c.head then return ([code], c.next)
  if let some width := hexWidth? c.head then
    let digits := (c.rest.drop 1).take width
    if digits.length != width || !digits.all isHexDigit then throw .malformed
    let code := digits.foldl (fun value d => value * 16 + (hexDigit? d).getD 0) 0
    if 0x10FFFF < code then throw .impossibleValue
    return ([code], c.skip (width + 1))
  match c.lineBreak? with
  | some (_, c) =>
    let (breaks, c) ← emptyLines (c.rest.length + 1) [] c
    return (breaks.map Char.toNat, c)
  | none => throw .malformed

/-- The code points up to the closing quote, after those read already, last first. -/
def readCodes (double : Bool) : Nat → List Nat → Cursor → Except Fault (List Nat × Cursor)
  | 0, _, _ => .error .malformed
  | steps + 1, codes, c => do
    if c.rest.isEmpty then throw .malformed
    let ch := c.head
    if isSpacing ch || isBreak ch then
      let (read, c) ← readSpacing c
      readCodes double steps (read.reverse ++ codes) c
    else if double && ch == '\\' then
      let (read, c) ← readEscape c
      readCodes double steps (read.reverse ++ codes) c
    else if !double && ch == '\'' && c.peek 1 == '\'' then
      readCodes double steps (ch.toNat :: codes) (c.skip 2)
    else if ch == (if double then '"' else '\'') then return (codes.reverse, c.next)
    else readCodes double steps (ch.toNat :: codes) c.next

/-- The scalar whose opening quote stands at a place. -/
def read (double : Bool) (c : Cursor) : Except Fault (Token × Cursor) := do
  let (codes, after) ← readCodes double (c.rest.length + 1) [] c.next
  return (.scalar codes false, after)

end ClusterPlan.Yaml.Quoted
