import ClusterPlan.Document.Yaml.Token.Block
import ClusterPlan.Document.Yaml.Token.Label
import ClusterPlan.Document.Yaml.Token.Plain
import ClusterPlan.Document.Yaml.Token.Quoted

/-!
# The tokens of a text

`TokenStream.ofText` takes a text apart. Two things need more than the next characters.

* Indentation: `indents` holds the columns of the block collections around a place, innermost
  first. A token further left closes those that lie to its right.
* Keys: whether a scalar is a key shows only at the colon behind it. `keys` holds, for each level
  of brackets, the place where a key may have begun, and when the colon comes the tokens `key` and,
  if a map begins there, `blockMapping` are put in at that place. A key lies on one line and is at
  most `keyReach` characters long.

A reader takes tokens as long as he can be sure of them: a fault in the text comes after all tokens
before the first place that may still turn out to be a key.
-/

namespace ClusterPlan.Yaml

/-- The longest distance between a key and its colon. -/
def keyReach : Nat := 1024

/-- A place where a key may have begun. -/
structure KeyStart where
  level : Nat
  token : Nat
  required : Bool
  index : Nat
  line : Nat
  column : Nat

/-- How far a text has been taken apart: the tokens last first, their number, the level of
brackets, the columns of the block collections around, and the keys that may have begun. -/
structure Lexer where
  cursor : Cursor
  tokens : List Token
  count : Nat
  level : Nat
  indents : List Nat
  keyAllowed : Bool
  keys : List KeyStart

namespace Lexer

/-- The beginning of a text. -/
def ofText (cs : List Char) : Lexer := ⟨.ofText cs, [], 0, 0, [], true, []⟩

/-- Inside brackets. -/
def inFlow (l : Lexer) : Bool := 0 < l.level

/-- One token more, and the place after it. -/
def emit (t : Token) (c : Cursor) (l : Lexer) : Lexer :=
  { l with cursor := c, tokens := t :: l.tokens, count := l.count + 1 }

/-- One token more at an earlier place. -/
def emitAt (place : Nat) (t : Token) (l : Lexer) : Lexer :=
  let behind := l.count - place
  { l with
    tokens := l.tokens.take behind ++ t :: l.tokens.drop behind
    count := l.count + 1 }

/-! ## Indentation -/

/-- The least column of a line that belongs to the innermost block collection's contents. -/
def contentColumn (l : Lexer) : Nat :=
  match l.indents with
  | [] => 0
  | column :: _ => column + 1

/-- Close the block collections to the right of a column. -/
def unindent (column : Nat) (l : Lexer) : Lexer :=
  if l.inFlow then l
  else
    let closed := (l.indents.takeWhile (column < ·)).length
    { l with
      indents := l.indents.drop closed
      tokens := List.replicate closed .blockEnd ++ l.tokens
      count := l.count + closed }

/-- Close all block collections. -/
def unindentAll (l : Lexer) : Lexer :=
  if l.inFlow then l
  else
    { l with
      indents := []
      tokens := List.replicate l.indents.length .blockEnd ++ l.tokens
      count := l.count + l.indents.length }

/-- Begin a block collection in a column, if it lies to the right of the one around it; its token
stands at the given place. -/
def indent (column place : Nat) (t : Token) (l : Lexer) : Lexer :=
  if l.contentColumn ≤ column then
    { l.emitAt place t with indents := column :: l.indents }
  else l

/-! ## Keys -/

/-- A key that began too far away to be one. -/
def isStale (c : Cursor) (k : KeyStart) : Bool :=
  k.line != c.line || keyReach < c.index - k.index

/-- Forget the keys that began too far away. -/
def dropStale (l : Lexer) : Except Fault Lexer :=
  if l.keys.any fun k => isStale l.cursor k && k.required then .error .malformed
  else .ok { l with keys := l.keys.filter (!isStale l.cursor ·) }

/-- Forget the key that may have begun at this level of brackets. -/
def dropKey (l : Lexer) : Except Fault Lexer :=
  if l.keys.any fun k => k.level == l.level && k.required then .error .malformed
  else .ok { l with keys := l.keys.filter (·.level != l.level) }

/-- Note that a key may begin here. -/
def noteKey (l : Lexer) : Except Fault Lexer :=
  if l.keyAllowed then do
    let c := l.cursor
    let required := !l.inFlow && l.indents.head? == some c.column
    let key := KeyStart.mk l.level l.count required c.index c.line c.column
    let l ← l.dropKey
    return { l with keys := key :: l.keys }
  else .ok l

/-! ## Steps -/

/-- The place of the next token, past spaces, comments and breaks, and whether a line ended. -/
def nextPlace : Nat → Bool → Cursor → Bool × Cursor
  | 0, broke, c => (broke, c)
  | steps + 1, broke, c =>
    let c := c.skipSpaces.skipComment
    match c.lineBreak? with
    | some (_, after) => nextPlace steps true after
    | none => (broke, c)

/-- Go to the next token. A byte order mark at the very beginning is passed over. -/
def advance (l : Lexer) : Lexer :=
  let c := if l.cursor.index == 0 && l.cursor.head == '\ufeff' then l.cursor.next else l.cursor
  let (broke, c) := nextPlace (c.rest.length + 1) false c
  { l with cursor := c, keyAllowed := l.keyAllowed || (broke && !l.inFlow) }

/-- A line of three hyphens or points that ends a document. -/
def readMark (t : Token) (l : Lexer) : Except Fault Lexer := do
  let l ← l.unindentAll.dropKey
  return { l.emit t (l.cursor.skip 3) with keyAllowed := false }

/-- A directive. -/
def readDirective (l : Lexer) : Except Fault Lexer := do
  let l ← l.unindentAll.dropKey
  let (d, after) ← Label.readDirective l.cursor
  return { l.emit (.directive d) after with keyAllowed := false }

/-- An opening bracket. -/
def openFlow (t : Token) (l : Lexer) : Except Fault Lexer := do
  let l ← l.noteKey
  return { l.emit t l.cursor.next with level := l.level + 1, keyAllowed := true }

/-- A closing bracket. -/
def closeFlow (t : Token) (l : Lexer) : Except Fault Lexer := do
  let l ← l.dropKey
  return { l.emit t l.cursor.next with level := l.level - 1, keyAllowed := false }

/-- A comma. -/
def readComma (l : Lexer) : Except Fault Lexer := do
  let l ← l.dropKey
  return { l.emit .comma l.cursor.next with keyAllowed := true }

/-- A hyphen before an item. -/
def readItem (l : Lexer) : Except Fault Lexer := do
  if !l.inFlow && !l.keyAllowed then throw .malformed
  let l := if l.inFlow then l else l.indent l.cursor.column l.count .blockSequence
  let l ← l.dropKey
  return { l.emit .item l.cursor.next with keyAllowed := true }

/-- A question mark before a key. -/
def readKey (l : Lexer) : Except Fault Lexer := do
  if !l.inFlow && !l.keyAllowed then throw .malformed
  let l := if l.inFlow then l else l.indent l.cursor.column l.count .blockMapping
  let l ← l.dropKey
  return { l.emit .key l.cursor.next with keyAllowed := !l.inFlow }

/-- A colon before a value. -/
def readValue (l : Lexer) : Except Fault Lexer := do
  match l.keys.find? (·.level == l.level) with
  | some k =>
    let l := { l with keys := l.keys.filter (·.level != l.level) }
    let l := l.emitAt k.token .key
    let l := if l.inFlow then l else l.indent k.column k.token .blockMapping
    return { l.emit .value l.cursor.next with keyAllowed := false }
  | none =>
    if !l.inFlow && !l.keyAllowed then throw .malformed
    let l := if l.inFlow then l else l.indent l.cursor.column l.count .blockMapping
    let l ← l.dropKey
    return { l.emit .value l.cursor.next with keyAllowed := !l.inFlow }

/-- A token that may begin a key. -/
def readLabel (read : Cursor → Except Fault (Token × Cursor)) (l : Lexer) :
    Except Fault Lexer := do
  let l ← l.noteKey
  let (t, after) ← read l.cursor
  return { l.emit t after with keyAllowed := false }

/-- A scalar of indented lines. -/
def readBlock (folds : Bool) (l : Lexer) : Except Fault Lexer := do
  let l ← l.dropKey
  let (t, after) ← Block.read folds l.contentColumn l.cursor
  return { l.emit t after with keyAllowed := true }

/-- A scalar without quotes. -/
def readPlain (l : Lexer) : Except Fault Lexer := do
  let l ← l.noteKey
  let (t, broke, after) := Plain.read l.inFlow l.contentColumn l.cursor
  return { l.emit t after with keyAllowed := broke }

/-- A plain scalar may begin with a character, given the next one. -/
def beginsPlain (inFlow : Bool) (ch follower : Char) : Bool :=
  !(isGap ch || "-?:,[]\x7b\x7d#&*!|>'\"%@`".toList.contains ch) ||
    (!isGap follower && (ch == '-' || (!inFlow && (ch == '?' || ch == ':'))))

/-- The token at a place where the text has not ended. -/
def readToken (l : Lexer) : Except Fault Lexer := do
  let c := l.cursor
  let follower := c.peek 1
  let marked := l.inFlow || isGap follower
  if c.head == '%' && c.column == 0 then l.readDirective
  else if c.column == 0 && c.atDocumentMark then
    l.readMark (if c.head == '-' then .documentStart else .documentEnd)
  else if c.head == '[' then l.openFlow .flowSequence
  else if c.head == '\x7b' then l.openFlow .flowMapping
  else if c.head == ']' then l.closeFlow .flowSequenceEnd
  else if c.head == '\x7d' then l.closeFlow .flowMappingEnd
  else if c.head == ',' then l.readComma
  else if c.head == '-' && isGap follower then l.readItem
  else if c.head == '?' && marked then l.readKey
  else if c.head == ':' && marked then l.readValue
  else if c.head == '*' then
    l.readLabel fun c => do
      let (name, after) ← Label.readAnchor c
      return (.alias name, after)
  else if c.head == '&' then
    l.readLabel fun c => do
      let (name, after) ← Label.readAnchor c
      return (.anchor name, after)
  else if c.head == '!' then
    l.readLabel fun c => do
      let (t, after) ← Label.readTag c
      return (.tag t, after)
  else if c.head == '|' && !l.inFlow then l.readBlock false
  else if c.head == '>' && !l.inFlow then l.readBlock true
  else if c.head == '\'' then l.readLabel (Quoted.read false)
  else if c.head == '"' then l.readLabel (Quoted.read true)
  else if beginsPlain l.inFlow c.head follower then l.readPlain
  else throw .malformed


/-- The tokens that are certain whatever follows. -/
def certain (l : Lexer) : List Token :=
  let undecided := l.keys.filter (!isStale l.cursor ·)
  l.tokens.reverse.take ((undecided.map (·.token)).foldl min l.count)

/-- The next token, or the end of the text. -/
def step (l : Lexer) : Except Fault (Bool × Lexer) := do
  let l ← l.advance.dropStale
  let l := l.unindent l.cursor.column
  if l.cursor.rest.isEmpty then
    let l ← l.unindentAll.dropKey
    return (true, l.emit .streamEnd l.cursor)
  else
    let l ← l.readToken
    return (false, l)

/-- The tokens of the whole text. -/
def run : Nat → Lexer → TokenStream
  | 0, l => ⟨l.certain, .malformed⟩
  | steps + 1, l =>
    match l.step with
    | .error fault => ⟨l.certain, fault⟩
    | .ok (true, done) => ⟨done.tokens.reverse, .malformed⟩
    | .ok (false, after) => run steps after

end Lexer

/-- The tokens of a text. A character that may not stand in a text is a fault before all tokens. -/
def TokenStream.ofText (cs : List Char) : TokenStream :=
  if cs.all isReadable then (Lexer.ofText cs).run (cs.length + 2)
  else ⟨[], .malformed⟩

end ClusterPlan.Yaml
