/-!
# Versions

A version has an epoch, release numbers, and optionally a pre-release, a post-release, a
development release and build labels. `Version.compare` orders versions as installers do:

* epochs first, then release numbers, in which trailing zeros do not count;
* a development release of a plain version comes before its pre-releases, and those before the
  plain version, which comes before its post-releases;
* a development release comes before the version it develops;
* build labels come after the version without any, words before numbers.
-/

namespace ClusterPlan

/-- The kinds of pre-release, in their order. -/
inductive Phase where
  | alpha
  | beta
  | candidate
  deriving DecidableEq, Repr

/-- The place of a phase in the order. -/
def Phase.rank : Phase → Nat
  | .alpha => 0
  | .beta => 1
  | .candidate => 2

/-- One build label: a word in lower case, or a number. -/
inductive BuildLabel where
  | word (letters : List Char)
  | number (value : Nat)
  deriving DecidableEq, Repr

/-- A version. -/
structure Version where
  epoch : Nat
  numbers : List Nat
  pre : Option (Phase × Nat)
  post : Option Nat
  dev : Option Nat
  build : Option (List BuildLabel)
  deriving DecidableEq, Repr

/-- A value with a least and a greatest element added. -/
inductive Bounded (α : Type) where
  | least
  | value (a : α)
  | greatest

namespace Bounded

/-- The order of a type with its two ends. -/
def compare {α : Type} (cmp : α → α → Ordering) : Bounded α → Bounded α → Ordering
  | least, least => .eq
  | least, _ => .lt
  | _, least => .gt
  | greatest, greatest => .eq
  | greatest, _ => .gt
  | _, greatest => .lt
  | value a, value b => cmp a b

end Bounded

namespace Version

/-- Lists compared entry by entry, a list before its extensions. -/
def compareLists {α : Type} (cmp : α → α → Ordering) : List α → List α → Ordering
  | [], [] => .eq
  | [], _ :: _ => .lt
  | _ :: _, [] => .gt
  | a :: as, b :: bs => (cmp a b).then (compareLists cmp as bs)

/-- Release numbers without trailing zeros. -/
def significant (numbers : List Nat) : List Nat :=
  (numbers.reverse.dropWhile (· == 0)).reverse

/-- Pre-releases by phase, then by number. -/
def comparePre (a b : Phase × Nat) : Ordering :=
  (Ord.compare a.1.rank b.1.rank).then (Ord.compare a.2 b.2)

/-- Build labels: words by code point, then numbers by value. -/
def compareLabel : BuildLabel → BuildLabel → Ordering
  | .word a, .word b => compareLists (fun c d => Ord.compare c.toNat d.toNat) a b
  | .word _, .number _ => .lt
  | .number _, .word _ => .gt
  | .number a, .number b => Ord.compare a b

/-- The rank of the pre-release part. -/
def preRank (v : Version) : Bounded (Phase × Nat) :=
  match v.pre with
  | some pre => .value pre
  | none => if v.post.isNone && v.dev.isSome then .least else .greatest

/-- The rank of the post-release part. -/
def postRank (v : Version) : Bounded Nat :=
  match v.post with
  | some n => .value n
  | none => .least

/-- The rank of the development part. -/
def devRank (v : Version) : Bounded Nat :=
  match v.dev with
  | some n => .value n
  | none => .greatest

/-- The rank of the build labels. -/
def buildRank (v : Version) : Bounded (List BuildLabel) :=
  match v.build with
  | some labels => .value labels
  | none => .least

/-- The order of versions. -/
def compare (v w : Version) : Ordering :=
  (Ord.compare v.epoch w.epoch).then <|
  (compareLists Ord.compare (significant v.numbers) (significant w.numbers)).then <|
  (Bounded.compare comparePre v.preRank w.preRank).then <|
  (Bounded.compare Ord.compare v.postRank w.postRank).then <|
  (Bounded.compare Ord.compare v.devRank w.devRank).then <|
  Bounded.compare (compareLists compareLabel) v.buildRank w.buildRank

/-- A version at least as new as another. -/
def atLeast (v minimum : Version) : Bool :=
  compare v minimum != .lt

/-- A version newer than another. -/
def newer (v w : Version) : Bool :=
  compare v w == .gt

/-- A version before the release it leads up to. -/
def isPreview (v : Version) : Bool :=
  v.pre.isSome || v.dev.isSome

/-- The minor release that a version belongs to: its first two numbers. -/
def series (v : Version) : String :=
  s!"{v.numbers.getD 0 0}.{v.numbers.getD 1 0}"

end Version

end ClusterPlan
