/-!
# Problems of a document

What can be wrong with a value in a document, and where: a problem is a flaw together with the path
that leads to the value, from the outside in.
-/

namespace ClusterPlan

/-- What is wrong with a value. -/
inductive Flaw where
  | missing
  | noText
  | brokenText
  | noInteger
  | unreadableInteger
  | fraction
  | notFinite
  | oversizeInteger
  | noFlag
  | unreadableFlag
  | noList
  | noMap
  | noSection (title : String)
  deriving DecidableEq, Repr

/-- The wording of a flaw. -/
def Flaw.message : Flaw → String
  | missing => "Field required"
  | noText => "Input should be a valid string"
  | brokenText => "Input should be a valid string, unable to parse raw data as a unicode string"
  | noInteger => "Input should be a valid integer"
  | unreadableInteger =>
    "Input should be a valid integer, unable to parse string as an integer"
  | fraction => "Input should be a valid integer, got a number with a fractional part"
  | notFinite => "Input should be a finite number"
  | oversizeInteger => "Unable to parse input string as an integer, exceeded maximum size"
  | noFlag => "Input should be a valid boolean"
  | unreadableFlag => "Input should be a valid boolean, unable to interpret input"
  | noList => "Input should be a valid list"
  | noMap => "Input should be a valid dictionary"
  | noSection title => s!"Input should be a valid dictionary or instance of {title}"

/-- A flaw and the path to the value that has it. -/
structure Problem where
  path : List String
  flaw : Flaw
  deriving DecidableEq, Repr

namespace Problem

/-- A flaw of the value itself. -/
def here (flaw : Flaw) : Problem := ⟨[], flaw⟩

/-- The same problem seen from a step further outside. -/
def within (step : String) (p : Problem) : Problem := { p with path := step :: p.path }

/-- The path as one text. -/
def location (p : Problem) : String := ".".intercalate p.path

end Problem

/-- A value, or everything that prevents it. -/
abbrev Checked (α : Type) := Except (List Problem) α

namespace Checked

variable {α β : Type}

/-- Nothing but one flaw. -/
def flawed (flaw : Flaw) : Checked α := .error [.here flaw]

/-- The problems seen from a step further outside. -/
def within (step : String) : Checked α → Checked α
  | .ok a => .ok a
  | .error ps => .error (ps.map (·.within step))

/-- Two values, or the problems of both. -/
def both : Checked α → Checked β → Checked (α × β)
  | .ok a, .ok b => .ok (a, b)
  | .ok _, .error qs => .error qs
  | .error ps, .ok _ => .error ps
  | .error ps, .error qs => .error (ps ++ qs)

/-- All values, or the problems of all of them. -/
def all : List (Checked α) → Checked (List α)
  | [] => .ok []
  | x :: xs => (both x (all xs)).map fun (a, as) => a :: as

end Checked

end ClusterPlan
