import ClusterPlan.Shape.Coercion
import ClusterPlan.Shape.KeyText
import ClusterPlan.TextMap

/-!
# Shapes of sections

A definition consists of sections, and a section of fields. `Kind` says what kind of value a field
has and `Fields` which fields a section has, so that one function reads every section (`read`) and
one writes it (`write`). The values that a section of a given shape may have form a type of their
own (`Values`), and reading yields a value of it.

A field has two names: the one it is written under and an alternative, which counts only where the
first one is absent. Members that are no fields do not count at all. Of the problems of a section
none is lost, and they come in the order of the fields.

Texts are read as they are, so the values that are read have texts that need not consist of
characters. `Kind.plain?` gives the values with texts of characters, if all of them do.
-/

namespace ClusterPlan

mutual

/-- The kind of value that a field has. -/
inductive Kind where
  | text
  | int
  | flag
  /-- A flag that may be left open. -/
  | optionalFlag
  | ints
  | texts
  /-- A section. One that is not required has its own initial values where it is absent. -/
  | section (required : Bool) (title : String) (fields : Fields)
  /-- A section that may be left out. -/
  | optionalSection (title : String) (fields : Fields)
  | sections (title : String) (fields : Fields)

/-- The fields of a section in their order, each with its name, its alternative name and the kind of
its value. -/
inductive Fields where
  | nil
  | cons (name alternative : String) (kind : Kind) (rest : Fields)

end

/-! ## Values -/

mutual

/-- The values of a kind, with texts of a given type. -/
def Kind.Value (τ : Type) : Kind → Type
  | .text => τ
  | .int => Int
  | .flag => Bool
  | .optionalFlag => Option Bool
  | .ints => List Int
  | .texts => TextMap τ
  | .section _ _ fields => fields.Values τ
  | .optionalSection _ fields => Option (fields.Values τ)
  | .sections _ fields => List (fields.Values τ)

/-- The values of the fields of a section, one after the other. -/
def Fields.Values (τ : Type) : Fields → Type
  | .nil => Unit
  | .cons _ _ kind rest => kind.Value τ × rest.Values τ

end

mutual

/-- The value of a field that is absent, if the field may be absent. -/
def Kind.initial? : (kind : Kind) → Option (kind.Value Wording)
  | .text => some (.text "")
  | .int => some (0 : Int)
  | .flag => some false
  | .optionalFlag => some none
  | .ints => some []
  | .texts => some TextMap.empty
  | .section required _ fields => if required then none else fields.initial?
  | .optionalSection _ _ => some none
  | .sections _ _ => some []

/-- The values of the fields where all of them are absent. -/
def Fields.initial? : (fields : Fields) → Option (fields.Values Wording)
  | .nil => some ()
  | .cons _ _ kind rest =>
    match kind.initial?, rest.initial? with
    | some v, some vs => some (v, vs)
    | _, _ => none

end

/-! ## Reading -/

namespace Document

/-- A scalar of a wanted kind; anything else has a flaw. -/
def readScalar {α : Type} (read : Scalar → Except Flaw α) (otherwise : Flaw) :
    Document → Checked α
  | scalar s =>
    match read s with
    | .ok a => .ok a
    | .error flaw => .flawed flaw
  | _ => .flawed otherwise

/-- A text. -/
def readText : Document → Checked Wording := readScalar Coercion.readText .noText

/-- An integer. -/
def readInt : Document → Checked Int := readScalar Coercion.readInt .noInteger

/-- A flag. -/
def readFlag : Document → Checked Bool := readScalar Coercion.readFlag .noFlag

/-- A value or null. -/
def readOptional {α : Type} (read : Document → Checked α) : Document → Checked (Option α)
  | scalar .null => .ok none
  | d => (read d).map some

/-- The items of a list or of a set. -/
def items? : Document → Option (List Document)
  | list items => some items
  | set elements => some (elements.map scalar)
  | _ => none

/-- Items one after the other, each of which is a step in the path, beginning with a given one. -/
def readItems {α : Type} (read : Document → Checked α) : Nat → List Document → Checked (List α)
  | _, [] => .ok []
  | i, d :: ds =>
    (((read d).within (toString i)).both (readItems read (i + 1) ds)).map fun (a, as) => a :: as

/-- A list. -/
def readList {α : Type} (read : Document → Checked α) (d : Document) : Checked (List α) :=
  match d.items? with
  | some items => readItems read 0 items
  | none => .flawed .noList

/-- An entry of a map of texts. The key and the value may both have problems. -/
def readEntry : Scalar × Document → Checked (Wording × Wording)
  | (key, d) =>
    (((readText (.scalar key)).within "[key]").both (readText d)).within (KeyText.ofScalar key)

/-- A map of texts. -/
def readTexts : Document → Checked (TextMap Wording)
  | map entries => (Checked.all (entries.map readEntry)).map TextMap.ofList
  | _ => .flawed .noMap

/-- The member of a section under its name or else under its alternative name, with the name under
which it was found. -/
def findMember (name alternative : String) (entries : List (Scalar × Document)) :
    Option (String × Document) :=
  match member? name entries with
  | some d => some (name, d)
  | none => (member? alternative entries).map fun d => (alternative, d)

/-- The members of a section, by the function that reads them. -/
def readSection {α : Type} (title : String) (read : List (Scalar × Document) → Checked α) :
    Document → Checked α
  | map entries => read entries
  | _ => .flawed (.noSection title)

end Document

/-- The value of a field that is absent. -/
def Kind.readAbsent (kind : Kind) (name : String) : Checked (kind.Value Wording) :=
  match kind.initial? with
  | some v => .ok v
  | none => .error [(Problem.here .missing).within name]

mutual

/-- A value of a kind. -/
def Kind.read : (kind : Kind) → Document → Checked (kind.Value Wording)
  | .text, d => d.readText
  | .int, d => d.readInt
  | .flag, d => d.readFlag
  | .optionalFlag, d => d.readOptional Document.readFlag
  | .ints, d => d.readList Document.readInt
  | .texts, d => d.readTexts
  | .section _ title fields, d => d.readSection title fun entries => fields.read entries
  | .optionalSection title fields, d =>
    d.readOptional fun d => d.readSection title fun entries => fields.read entries
  | .sections title fields, d =>
    d.readList fun d => d.readSection title fun entries => fields.read entries

/-- The values of the fields of a section. -/
def Fields.read : (fields : Fields) → List (Scalar × Document) → Checked (fields.Values Wording)
  | .nil, _ => .ok ()
  | .cons name alternative kind rest, entries =>
    Checked.both
      (match Document.findMember name alternative entries with
        | some (found, d) => (kind.read d).within found
        | none => kind.readAbsent name)
      (rest.read entries)

end

/-! ## Writing -/

mutual

/-- The document of a value, with the fields of sections under their names. -/
def Kind.write : (kind : Kind) → kind.Value Wording → Document
  | .text, w => .wording w
  | .int, i => .scalar (.int i)
  | .flag, b => .scalar (.flag b)
  | .optionalFlag, none => .null
  | .optionalFlag, some b => .scalar (.flag b)
  | .ints, is => .list (is.map fun i => .scalar (.int i))
  | .texts, m => .map (m.entries.map fun (key, value) => (key.toScalar, .wording value))
  | .section _ _ fields, vs => .record (fields.write vs)
  | .optionalSection _ _, none => .null
  | .optionalSection _ fields, some vs => .record (fields.write vs)
  | .sections _ fields, vss => .list (vss.map fun vs => .record (fields.write vs))

/-- The members of a section. -/
def Fields.write : (fields : Fields) → fields.Values Wording → List (String × Document)
  | .nil, _ => []
  | .cons name _ kind rest, (v, vs) => (name, kind.write v) :: rest.write vs

end

/-! ## Texts of characters -/

/-- An entry of a map with a key and a value of characters. -/
def TextMap.plainEntry? (entry : Wording × Wording) : Option (String × String) := do
  return (← entry.1.characters?, ← entry.2.characters?)

/-- A map with texts of characters. -/
def TextMap.plain? (m : TextMap Wording) : Option TextMap :=
  (m.entries.mapM plainEntry?).map ofList

mutual

/-- The value of a kind with texts of characters, if all of them consist of characters. -/
def Kind.plain? : (kind : Kind) → kind.Value Wording → Option (kind.Value String)
  | .text, w => w.characters?
  | .int, i => some i
  | .flag, b => some b
  | .optionalFlag, b => some b
  | .ints, is => some is
  | .texts, m => m.plain?
  | .section _ _ fields, vs => fields.plain? vs
  | .optionalSection _ _, none => some none
  | .optionalSection _ fields, some vs => (fields.plain? vs).map some
  | .sections _ fields, vss => vss.mapM fun vs => fields.plain? vs

/-- The values of the fields of a section with texts of characters. -/
def Fields.plain? : (fields : Fields) → fields.Values Wording → Option (fields.Values String)
  | .nil, _ => some ()
  | .cons _ _ kind rest, (v, vs) =>
    match kind.plain? v, rest.plain? vs with
    | some v, some vs => some (v, vs)
    | _, _ => none

end

end ClusterPlan
