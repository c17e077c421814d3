import ClusterPlan.Text.Cut

/-!
# Paths

The path of a file consists of the slashes that it begins with and of the names on the way. Empty
names and single points lead nowhere, so they are dropped. Two slashes at the beginning are not the
same as one, but any other number of them is.
-/

namespace ClusterPlan

open ClusterPlan.Text

/-- A path. -/
structure Path where
  root : List Char
  names : List (List Char)
  deriving DecidableEq, Repr

namespace Path

/-- A name that leads to where one is already. -/
def isIdle (name : List Char) : Bool := name.isEmpty || name == ['.']

/-- The path that a text stands for. -/
def ofText (text : String) : Path :=
  let slashes := text.toList.takeWhile (· == '/')
  { root := if slashes.length ≤ 2 then slashes else ['/']
    names := (splitOn '/' (text.toList.drop slashes.length)).filter (!isIdle ·) }

/-- The text of a path. A point stands for the path that leads nowhere. -/
def text (p : Path) : String :=
  match p.root ++ joinWith '/' p.names with
  | [] => "."
  | cs => String.ofList cs

/-- The last name on a path, from its last point on, if something stands before and after that
point. -/
def suffix (p : Path) : List Char :=
  let name := p.names.getLast?.getD []
  let ending := (name.reverse.takeWhile (· != '.')).reverse
  if ending.isEmpty || name.length ≤ ending.length + 1 then [] else '.' :: ending

/-- The path of a file that is written in YAML. -/
def isYaml (p : Path) : Bool :=
  let ending := String.ofList (p.suffix.map Char.toLower)
  ending == ".yaml" || ending == ".yml"

end Path

end ClusterPlan
