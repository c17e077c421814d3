import ClusterPlan.Document.Yaml.Token

/-!
# Plain scalars

Scalars without quotes. A plain scalar ends at a comment, at a colon before a gap, inside brackets
also at a comma, a question mark or a bracket, and outside brackets at a line that is not indented
further than the collection around it. Lines are joined by a space, and empty lines count as breaks.
-/

namespace ClusterPlan.Yaml.Plain

/-- The characters of a plain scalar up to the next gap or separator, last first. -/
def wordReversed (inFlow : Bool) : List Char → List Char → List Char
  | word, [] => word
  | word, ch :: rest =>
    let follower := rest.headD finish
    if isGap ch ||
        (ch == ':' && (isGap follower || (inFlow && isFlowMark follower))) ||
        (inFlow && (ch == '?' || isFlowMark ch)) then word
    else wordReversed inFlow (ch :: word) rest

/-- The breaks between two lines of a plain scalar, after those passed already, last first; nothing
if a document mark comes first. -/
def emptyLines : Nat → List Char → Cursor → Option (List Char) × Cursor
  | 0, _, c => (none, c)
  | steps + 1, breaks, c =>
    let c := c.skipSpaces
    match c.lineBreak? with
    | some (b, after) =>
      if after.atDocumentMark then (none, after) else emptyLines steps (b :: breaks) after
    | none => (some breaks.reverse, c)

/-- What lies between two words: what it counts for in the scalar, whether a line ended, and the
place after it. Nothing counts if the scalar ends here. -/
def gap (c : Cursor) : List Char × Bool × Cursor :=
  let (spaces, c) := c.span (· == ' ')
  match c.lineBreak? with
  | none => (spaces, false, c)
  | some (b, c) =>
    if c.atDocumentMark then ([], true, c)
    else match emptyLines (c.rest.length + 1) [] c with
      | (none, c) => ([], true, c)
      | (some breaks, c) =>
        (if b != '\n' then b :: breaks else if breaks.isEmpty then [' '] else breaks, true, c)

/-- The characters of a plain scalar, after those read already, last first; whether a line ended
behind them; and the place after the scalar. The lines must begin in a column not before `indent`,
unless they stand in brackets. -/
def readWords (inFlow : Bool) (indent : Nat) :
    Nat → List Char → List Char → Bool → Cursor → List Char × Bool × Cursor
  | 0, _, done, broke, c => (done.reverse, broke, c)
  | steps + 1, between, done, broke, c =>
    let word := wordReversed inFlow [] c.rest
    if c.head == '#' || word.isEmpty then (done.reverse, broke, c)
    else
      let done := word ++ (between.reverse ++ done)
      let (between, broke, c) := gap (c.skip word.length)
      if between.isEmpty || c.head == '#' || (!inFlow && c.column < indent) then
        (done.reverse, broke, c)
      else readWords inFlow indent steps between done broke c

/-- The scalar that begins at a place, and whether a line ended behind it. -/
def read (inFlow : Bool) (indent : Nat) (c : Cursor) : Token × Bool × Cursor :=
  let (chars, broke, after) := readWords inFlow indent (c.rest.length + 1) [] [] false c
  (.scalar (chars.map Char.toNat) true, broke, after)

end ClusterPlan.Yaml.Plain
