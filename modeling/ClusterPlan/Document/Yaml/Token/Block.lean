import ClusterPlan.Document.Yaml.Token

/-!
# Block scalars

Scalars made of the indented lines after a bar or an angle. After a bar every break counts as
itself; after an angle the break between two lines that begin with no spacing counts as a space.
A sign in the header says what becomes of the last break (`-` drops it) and of the empty lines
after it (`+` keeps them); a digit gives the indentation, which is otherwise that of the first line
that is not empty.
-/

namespace ClusterPlan.Yaml.Block

/-- What a header says: whether the breaks at the end are kept or dropped, and the indentation. -/
structure Header where
  chomping : Option Bool
  increment : Option Nat

/-- A sign in a header. -/
def sign? (ch : Char) : Option Bool :=
  if ch == '+' then some true else if ch == '-' then some false else none

/-- The header that begins at a place. Sign and digit may come in either order. -/
def readHeader (c : Cursor) : Except Fault (Header × Cursor) := do
  let (before, c) := match sign? c.head with
    | some keep => (some keep, c.next)
    | none => (none, c)
  let (increment, c) ←
    if c.head.isDigit then
      if c.head == '0' then throw .malformed
      else pure (some (c.head.toNat - 0x30), c.next)
    else pure (none, c)
  let (after, c) := match before, increment, sign? c.head with
    | none, some _, some keep => (some keep, c.next)
    | _, _, _ => (none, c)
  if !isWordEnd c.head then throw .malformed
  return (⟨before.or after, increment⟩, c)

/-- The place after the spaces up to a column. -/
def skipIndent (indent : Nat) (c : Cursor) : Cursor :=
  c.skip (min (indent - c.column) (c.rest.takeWhile (· == ' ')).length)

/-- The breaks of empty lines, after those passed already, last first, and the place of the first
line that has content in the given column. -/
def emptyLines (indent : Nat) : Nat → List Char → Cursor → List Char × Cursor
  | 0, breaks, c => (breaks.reverse, c)
  | steps + 1, breaks, c =>
    let c := skipIndent indent c
    match c.lineBreak? with
    | some (b, after) => emptyLines indent steps (b :: breaks) after
    | none => (breaks.reverse, c)

/-- The breaks of the empty lines at the beginning, the widest column reached by spaces, and the
place of the first character that is neither. -/
def leadingLines : Nat → List Char → Nat → Cursor → List Char × Nat × Cursor
  | 0, breaks, widest, c => (breaks.reverse, widest, c)
  | steps + 1, breaks, widest, c =>
    let c := c.skipSpaces
    let widest := max widest c.column
    match c.lineBreak? with
    | some (b, after) => leadingLines steps (b :: breaks) widest after
    | none => (breaks.reverse, widest, c)

/-- The lines of a block scalar from a place on, after the characters read already, last first:
all characters, the last break, the breaks of the empty lines after it, and the place behind. -/
def readLines (folds : Bool) (indent : Nat) :
    Nat → List Char → List Char → Cursor → List Char × List Char × List Char × Cursor
  | 0, breaks, done, c => (done, [], breaks, c)
  | steps + 1, breaks, done, c =>
    if c.column != indent || c.rest.isEmpty then (done, [], breaks, c)
    else
      let flush := !isSpacing c.head
      let (line, c) := c.span (!isBreak ·)
      let done := line.reverse ++ (breaks.reverse ++ done)
      let (last, c) := match c.lineBreak? with
        | some (b, after) => ([b], after)
        | none => ([], c)
      let (breaks, c) := emptyLines indent (c.rest.length + 1) [] c
      if c.column != indent || c.rest.isEmpty then (done, last, breaks, c)
      else
        let joint :=
          if folds && last == ['\n'] && flush && !isSpacing c.head then
            if breaks.isEmpty then [' '] else []
          else last
        readLines folds indent steps breaks (joint ++ done) c

/-- The scalar whose bar or angle stands at a place; its lines are indented to at least the given
column. -/
def read (folds : Bool) (least : Nat) (c : Cursor) : Except Fault (Token × Cursor) := do
  let (header, c) ← readHeader c.next
  let c ← c.finishLine
  let least := max least 1
  let (breaks, indent, c) := match header.increment with
    | some n =>
      let (breaks, c) := emptyLines (least + n - 1) (c.rest.length + 1) [] c
      (breaks, least + n - 1, c)
    | none =>
      let (breaks, widest, c) := leadingLines (c.rest.length + 1) [] 0 c
      (breaks, max least widest, c)
  let (done, last, breaks, c) := readLines folds indent (c.rest.length + 1) breaks [] c
  let kept := match header.chomping with
    | none => last
    | some true => last ++ breaks
    | some false => []
  return (.scalar ((done.reverse ++ kept).map Char.toNat) false, c)

end ClusterPlan.Yaml.Block
