import ClusterPlan.Document.Json
import ClusterPlan.Document.Yaml.Value
import ClusterPlan.Path
import ClusterPlan.Plan.Shape
import ClusterPlan.Settings
import ClusterPlan.Text.Quoted

/-!
# Cluster definitions

A definition is a document, or a file that holds one. The plan is the document itself or, if the
document has one, its member `properties`; the other members of such an envelope do not count.

A file is refused if it is too large. The last name on its path decides what it is written in: YAML
if the name ends in `.yaml` or `.yml` after something else, and JSON otherwise. Before it is read,
line ends are made uniform.

The system may refuse to tell what lies under a path, how large it is or what it holds. What the
system says then is not known here, so it is part of what is given (`Definition.File`). How deep a
document is nested, by itself or through aliases, is not limited.
-/

namespace ClusterPlan

open ClusterPlan.Text

/-- Why a definition cannot be loaded; the source is the name of the file or of whatever else the
document came from. -/
inductive LoadFault where
  | noMap (source : String)
  | noPropertiesMap (source : String)
  | problems (source : String) (ps : List Problem)
  | notFound (source : String)
  /-- The system refuses to tell whether there is anything under the path. -/
  | unreachable
  | unmeasured (source reason : String)
  | unreadable (source reason : String)
  | tooLarge (source : String) (limit : Int)
  | noText (source : String)
  | yaml (source : String)
  | json (source : String) (flaw : String)
  /-- The document holds a value that is written correctly and cannot be read: a date that does not
  exist, an integer that is too long, or default keys that lead around in a circle. -/
  | impossibleValue
  deriving DecidableEq, Repr

/-- A problem in a line of its own. -/
def Problem.line (p : Problem) : String :=
  s!"  - {p.location}: {p.flaw.message}"

/-- The diagnostic of a fault, if one can be stated. -/
def LoadFault.message? : LoadFault → Option String
  | noMap source => some s!"Cluster definition must be a mapping: {source}"
  | noPropertiesMap source => some s!"properties section must be a mapping: {source}"
  | problems source ps =>
    some (s!"Validation failed for {source}:\n" ++ "\n".intercalate (ps.map Problem.line))
  | notFound source => some s!"Cluster definition not found: {source}"
  | unreachable => none
  | unmeasured source reason => some s!"Failed to stat cluster definition {source}: {reason}"
  | unreadable source reason => some s!"Failed to read cluster definition {source}: {reason}"
  | tooLarge source limit =>
    some s!"Cluster definition exceeds maximum size of {limit} bytes: {source}"
  | noText source => some s!"Cluster definition is not valid UTF-8: {source}"
  | yaml source => some s!"Invalid YAML in {source}"
  | json source flaw => some s!"Invalid JSON in {source}: {flaw}"
  | impossibleValue => none

namespace Definition

/-! ## Documents -/

/-- The plan that a document describes. -/
def read (source : String) (d : Document) : Except LoadFault (Plan Wording) :=
  let plan (d : Document) : Except LoadFault (Plan Wording) :=
    match Plan.read d with
    | .ok p => .ok p
    | .error ps => .error (.problems source ps)
  match d with
  | .map entries =>
    match Document.member? "properties" entries with
    | none => plan d
    | some (.map inner) => plan (.map inner)
    | some _ => .error (.noPropertiesMap source)
  | _ => .error (.noMap source)

/-! ## Files -/

/-- What lies under a path, and what the system says if it refuses to look. -/
inductive File where
  | missing
  /-- It cannot be told whether there is anything, say because the name is too long. -/
  | unreachable
  | unmeasured (reason : String)
  | unreadable (size : Nat) (reason : String)
  | content (bytes : ByteArray)

/-- A directory has a size and cannot be read. -/
def File.directory (size : Nat) (path : Path) : File :=
  .unreadable size ("[Errno 21] Is a directory: " ++ quoted path.text)

/-- A text whose lines all end in a line feed, after the part that has been gone through, last
character first. -/
def uniformFrom (done : List Char) : List Char → List Char
  | [] => done.reverse
  | '\r' :: '\n' :: cs => uniformFrom ('\n' :: done) cs
  | '\r' :: cs => uniformFrom ('\n' :: done) cs
  | c :: cs => uniformFrom (c :: done) cs

/-- A text whose lines all end in a line feed. -/
def uniformLines (cs : List Char) : List Char := uniformFrom [] cs

/-- The depth to which a document is read; sections lie far less deep. -/
def depth : Nat := 16

/-- The document in a YAML text. -/
def readYaml (source : String) (cs : List Char) : Except LoadFault Document :=
  match Yaml.read depth cs with
  | .ok d => .ok d
  | .error .malformed => .error (.yaml source)
  | .error .impossibleValue => .error .impossibleValue

/-- The document in a JSON text. -/
def readJson (source : String) (cs : List Char) : Except LoadFault Document :=
  match Json.read (some Numeral.digitLimit) cs with
  | .ok d => .ok d
  | .error (.at position flaw) => .error (.json source (flaw.message cs position))
  | .error .overlong => .error .impossibleValue

/-- The document in the content of a file. -/
def readContent (path : Path) (bytes : ByteArray) : Except LoadFault Document :=
  match String.fromUTF8? bytes with
  | none => .error (.noText path.text)
  | some text =>
    let cs := uniformLines text.toList
    if path.isYaml then readYaml path.text cs else readJson path.text cs

/-- A file may have at most a given number of bytes. -/
def checkSize (limit : Int) (path : Path) (size : Nat) : Except LoadFault Unit :=
  if limit < size then .error (.tooLarge path.text limit) else .ok ()

/-- The plan in a file, which may have at most the given number of bytes. -/
def load (limit : Int) (path : Path) : File → Except LoadFault (Plan Wording)
  | .missing => .error (.notFound path.text)
  | .unreachable => .error .unreachable
  | .unmeasured reason => .error (.unmeasured path.text reason)
  | .unreadable size reason => do
    checkSize limit path size
    throw (.unreadable path.text reason)
  | .content bytes => do
    checkSize limit path bytes.size
    let d ← readContent path bytes
    read path.text d

end Definition

end ClusterPlan
