import ClusterPlan.Binary64

/-!
# Documents

A document is what a definition file says before anybody asks whether it describes a cluster: a
tree of scalars, lists, maps and sets. Maps keep the order in which their keys first occur, and of
entries with the same key the last one gives the value.

Keys are scalars, and two keys are the same when they are equal as values (`Scalar.same`): numbers
are compared by value whatever their kind, so that `1`, `1.0` and `true` are one key, while a text
and a number never are.
-/

namespace ClusterPlan

/-- A point in time: a date, a time of day in microseconds, and its offset from universal time in
minutes, if one is given. -/
structure Moment where
  year : Nat
  month : Nat
  day : Nat
  hour : Nat
  minute : Nat
  second : Nat
  microsecond : Nat
  offset : Option Int
  deriving DecidableEq, Repr

/-- A scalar value. -/
inductive Scalar where
  | null
  | flag (b : Bool)
  | int (i : Int)
  | real (x : Binary64)
  | text (s : String)
  /-- A text with surrogates in it, given by its code points. -/
  | broken (codes : List Nat)
  | bytes (bs : List UInt8)
  | date (year month day : Nat)
  | moment (m : Moment)
  deriving DecidableEq, Repr

/-- A document. -/
inductive Document where
  | scalar (s : Scalar)
  | list (items : List Document)
  | map (entries : List (Scalar × Document))
  | set (elements : List Scalar)
  deriving Repr

namespace Moment

/-- Days before a month in a year that is no leap year. -/
def daysBefore : Nat → Nat
  | 1 => 0 | 2 => 31 | 3 => 59 | 4 => 90 | 5 => 120 | 6 => 151
  | 7 => 181 | 8 => 212 | 9 => 243 | 10 => 273 | 11 => 304 | _ => 334

/-- A leap year. -/
def isLeap (year : Nat) : Bool :=
  year % 4 == 0 && (year % 100 != 0 || year % 400 == 0)

/-- The number of days in a month. -/
def daysIn (year month : Nat) : Nat :=
  match month with
  | 2 => if isLeap year then 29 else 28
  | 4 | 6 | 9 | 11 => 30
  | _ => 31

/-- Days from the first of January of year one. -/
def dayNumber (year month day : Nat) : Nat :=
  let before := year - 1
  before * 365 + before / 4 - before / 100 + before / 400 + daysBefore month +
    (if 2 < month && isLeap year then 1 else 0) + day - 1

/-- Microseconds from the beginning of year one, by the clock of the moment's own offset. -/
def localMicroseconds (m : Moment) : Nat :=
  (((dayNumber m.year m.month m.day * 24 + m.hour) * 60 + m.minute) * 60 + m.second) * 1000000 +
    m.microsecond

/-- The same moment: two without an offset by the clock, two with one by universal time. -/
def same (m n : Moment) : Bool :=
  match m.offset, n.offset with
  | none, none => m.localMicroseconds == n.localMicroseconds
  | some a, some b =>
    (m.localMicroseconds : Int) - a * 60000000 == (n.localMicroseconds : Int) - b * 60000000
  | _, _ => false

end Moment

namespace Scalar

/-- A code point that is half of a pair and no character by itself. -/
def isSurrogate (code : Nat) : Bool := 0xD800 ≤ code && code ≤ 0xDFFF

/-- A text by its code points. -/
def ofCodes (codes : List Nat) : Scalar :=
  if codes.any isSurrogate then broken codes
  else text (String.ofList (codes.map Char.ofNat))

/-- The integer that a flag or an integer counts as. -/
def asInt? : Scalar → Option Int
  | flag b => some (if b then 1 else 0)
  | int i => some i
  | _ => none

/-- Equality of keys. -/
def same : Scalar → Scalar → Bool
  | real x, real y => x.same y
  | real x, y => match y.asInt? with
    | some i => x.toInt? == some i
    | none => false
  | x, real y => match x.asInt? with
    | some i => y.toInt? == some i
    | none => false
  | moment m, moment n => m.same n
  | x, y => match x.asInt?, y.asInt? with
    | some i, some j => i == j
    | _, _ => x == y

end Scalar

/-- A text that is the value of a field. A document may hold halves of pairs by themselves, so not
every such text consists of characters. -/
inductive Wording where
  | text (s : String)
  /-- A text with surrogates in it, given by its code points. -/
  | broken (codes : List Nat)
  deriving DecidableEq, Repr

namespace Wording

instance : Coe String Wording := ⟨text⟩

/-- The text as a scalar. -/
def toScalar : Wording → Scalar
  | text s => .text s
  | broken codes => .broken codes

/-- The characters of a text, if it consists of characters. -/
def characters? : Wording → Option String
  | text s => some s
  | broken _ => none

end Wording

namespace Document

/-- The document without content. -/
def null : Document := scalar .null

instance : Inhabited Document := ⟨null⟩

/-- A text as a document. -/
def text (s : String) : Document := scalar (.text s)

/-- The text of a field as a document. -/
def wording (w : Wording) : Document := scalar w.toScalar

/-- A map whose keys are texts. -/
def record (entries : List (String × Document)) : Document :=
  map (entries.map fun (name, d) => (.text name, d))

/-- Entries with one more: a new key at the end, or a new value for a key that is there already. -/
def insertEntry {α : Type} (key : Scalar) (value : α) : List (Scalar × α) → List (Scalar × α)
  | [] => [(key, value)]
  | (k, v) :: rest =>
    if k.same key then (k, value) :: rest else (k, v) :: insertEntry key value rest

/-- The entries of a map from pairs in the order of the text. -/
def entriesOf {α : Type} (pairs : List (Scalar × α)) : List (Scalar × α) :=
  pairs.foldl (fun entries (key, value) => insertEntry key value entries) []

/-- The value of a text key. -/
def member? (name : String) : List (Scalar × Document) → Option Document
  | [] => none
  | (.text s, d) :: rest => if s = name then some d else member? name rest
  | _ :: rest => member? name rest

/-- A document that is not empty: neither null, false, zero nor without any content. -/
def isSubstantial : Document → Bool
  | scalar .null => false
  | scalar (.flag b) => b
  | scalar (.int i) => i != 0
  | scalar (.real x) => !x.isZero
  | scalar (.text s) => !s.isEmpty
  | scalar (.broken codes) => !codes.isEmpty
  | scalar (.bytes bs) => !bs.isEmpty
  | scalar (.date ..) => true
  | scalar (.moment _) => true
  | list items => !items.isEmpty
  | map entries => !entries.isEmpty
  | set elements => !elements.isEmpty

end Document

end ClusterPlan
