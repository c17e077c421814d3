import ClusterPlan.Document.Yaml.Token
import ClusterPlan.Numeral

/-!
# Anchors, tags and directives

The tokens that say something about a node or about the document: anchors and their aliases, tags,
and the lines that begin with a percent sign. A tag may hold escapes of two hexadecimal digits,
which together must be UTF-8.
-/

namespace ClusterPlan.Yaml.Label

open ClusterPlan.Text

/-- A run of a class that must not be empty. -/
def readRun (p : Char → Bool) (c : Cursor) : Except Fault (List Char × Cursor) :=
  let (run, after) := c.span p
  if run.isEmpty then .error .malformed else .ok (run, after)

/-- A character that may follow the name of an anchor. -/
def endsAnchor (ch : Char) : Bool :=
  isGap ch || "?:,]\x7d%@`".toList.contains ch

/-- The name behind an ampersand or an asterisk. -/
def readAnchor (c : Cursor) : Except Fault (String × Cursor) := do
  let (name, c) ← readRun isNameCharacter c.next
  if !endsAnchor c.head then throw .malformed
  return (String.ofList name, c)

/-! ## Tags -/

/-- The bytes of the escapes at a place, after those read already, last first. -/
def escapedBytes : Nat → List UInt8 → Cursor → Except Fault (List UInt8 × Cursor)
  | 0, bytes, c => .ok (bytes.reverse, c)
  | steps + 1, bytes, c =>
    if c.head != '%' then .ok (bytes.reverse, c)
    else match hexDigit? (c.peek 1), hexDigit? (c.peek 2) with
      | some high, some low =>
        escapedBytes steps (UInt8.ofNat (high * 16 + low) :: bytes) (c.skip 3)
      | _, _ => .error .malformed

/-- The characters of a tag from a place on, after those read already. -/
def tagCharacters : Nat → List Char → Cursor → Except Fault (List Char × Cursor)
  | 0, done, c => .ok (done, c)
  | steps + 1, done, c => do
    let (run, c) := c.span isTagCharacter
    if c.head != '%' then return (done ++ run, c)
    let (bytes, c) ← escapedBytes (c.rest.length + 1) [] c
    match String.fromUTF8? (ByteArray.mk bytes.toArray) with
    | some s => tagCharacters steps (done ++ run ++ s.toList) c
    | none => throw .malformed

/-- The text of a tag, which is not empty unless it was written with escapes. -/
def readTagText (c : Cursor) : Except Fault (String × Cursor) := do
  if c.head != '%' && !isTagCharacter c.head then throw .malformed
  let (chars, c) ← tagCharacters (c.rest.length + 1) [] c
  return (String.ofList chars, c)

/-- A handle: an exclamation mark alone before a space, or two of them around a name, which may be
empty. -/
def readHandle (c : Cursor) : Except Fault (String × Cursor) := do
  if c.head != '!' then throw .malformed
  if c.peek 1 == ' ' then return ("!", c.next)
  let (name, c) := c.next.span isNameCharacter
  if c.head != '!' then throw .malformed
  return (String.ofList ('!' :: name ++ ['!']), c.next)

/-- The tag whose exclamation mark stands at a place. -/
def readTag (c : Cursor) : Except Fault (TagText × Cursor) := do
  let (tag, c) ←
    if c.peek 1 == '<' then
      let (suffix, c) ← readTagText (c.skip 2)
      if c.head != '>' then throw .malformed
      pure (⟨none, suffix⟩, c.next)
    else if isGap (c.peek 1) then pure (⟨none, "!"⟩, c.next)
    else
      let word := (c.rest.drop 1).takeWhile (!isWordEnd ·)
      let (handle, c) ← if word.contains '!' then readHandle c else pure ("!", c.next)
      let (suffix, c) ← readTagText c
      pure (⟨some handle, suffix⟩, c)
  if !isWordEnd c.head then throw .malformed
  return (tag, c)

/-! ## Directives -/

/-- A number of the version. -/
def readVersionNumber (c : Cursor) : Except Fault (Nat × Cursor) := do
  let (digits, c) ← readRun Char.isDigit c
  if Numeral.digitLimit < digits.length then throw .impossibleValue
  return (Numeral.ofDigits digits, c)

/-- The version that a directive states. -/
def readVersion (c : Cursor) : Except Fault (Directive × Cursor) := do
  let (major, c) ← readVersionNumber c.skipSpaces
  if c.head != '.' then throw .malformed
  let (_, c) ← readVersionNumber c.next
  if !isWordEnd c.head then throw .malformed
  return (.version major, c)

/-- The handle that a directive declares. -/
def readHandleDirective (c : Cursor) : Except Fault (Directive × Cursor) := do
  let (handle, c) ← readHandle c.skipSpaces
  if c.head != ' ' then throw .malformed
  let (lead, c) ← readTagText c.skipSpaces
  if !isWordEnd c.head then throw .malformed
  return (.handle handle lead, c)

/-- The directive whose percent sign stands at a place, up to the end of its line. -/
def readDirective (c : Cursor) : Except Fault (Directive × Cursor) := do
  let (name, c) ← readRun isNameCharacter c.next
  if !isWordEnd c.head then throw .malformed
  let (directive, c) ←
    if name == "YAML".toList then readVersion c
    else if name == "TAG".toList then readHandleDirective c
    else pure (.other, c.skipWhile (!isBreak ·))
  let c ← c.finishLine
  return (directive, c)

end ClusterPlan.Yaml.Label
