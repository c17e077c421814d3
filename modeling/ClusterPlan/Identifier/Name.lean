import ClusterPlan.Text.Cut
import ClusterPlan.Text.Digit

/-!
# Names and labels

The recognisers for the names that occur in a plan. All of them admit ASCII characters only.

* A pool name has one to twelve lower-case letters and digits, a letter first.
* A DNS name has three to forty-five letters, digits and hyphens, a letter first, and no hyphen
  last.
* A name segment has one to sixty-three letters, digits, hyphens, underscores and dots, a letter or
  digit first and last. The value of a label is a segment, if it is not empty.
* A label key is a segment, or a domain, a slash and a segment. A domain is a series of non-empty
  runs of letters, digits and hyphens, joined by dots.
-/

namespace ClusterPlan.Identifier

open ClusterPlan.Text

/-- A lower-case ASCII letter or a digit. -/
def isLowerAlnum (c : Char) : Bool :=
  c.isLower || c.isDigit

/-- A name that an agent pool may have. -/
def isPoolName (s : String) : Bool :=
  match s.toList with
  | [] => false
  | c :: cs => c.isLower && cs.all isLowerAlnum && cs.length ≤ 11

/-- A letter, digit or hyphen. -/
def isDomainChar (c : Char) : Bool :=
  isAsciiAlnum c || c == '-'

/-- A name that a public address may have. -/
def isDnsName (s : String) : Bool :=
  let cs := s.toList
  3 ≤ cs.length && cs.length ≤ 45 && cs.all isDomainChar &&
    cs.head?.any Char.isAlpha && cs.getLast?.any isAsciiAlnum

/-- A character of a name segment. -/
def isSegmentChar (c : Char) : Bool :=
  isAsciiAlnum c || c == '-' || c == '_' || c == '.'

/-- A name segment. -/
def isSegment (cs : List Char) : Bool :=
  cs.length ≤ 63 && cs.all isSegmentChar && cs.head?.any isAsciiAlnum &&
    cs.getLast?.any isAsciiAlnum

/-- A series of non-empty runs of letters, digits and hyphens, joined by dots. -/
def isDomain (cs : List Char) : Bool :=
  (splitOn '.' cs).all fun run => !run.isEmpty && run.all isDomainChar

/-- The value of a label that is not empty. -/
def isLabelValue (s : String) : Bool :=
  isSegment s.toList

/-- The key of a label, whatever the length of its domain. -/
def isLabelKey (s : String) : Bool :=
  match cut? '/' s.toList with
  | none => isSegment s.toList
  | some (domain, name) => isDomain domain && isSegment name

/-- The length of what stands before the first slash of a label key. -/
def domainLength? (s : String) : Option Nat :=
  (cut? '/' s.toList).map fun (domain, _) => domain.length

end ClusterPlan.Identifier
