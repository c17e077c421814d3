import ClusterPlan.Binary64
import ClusterPlan.Numeral
import ClusterPlan.Text.Quoted

/-!
# Durations

A duration is a whole number of nanoseconds. Its text is an optional sign and then either the digit
`0` alone or one or more components, each a decimal number with a unit directly behind it. A
component counts for the number times the unit, a remainder below one nanosecond being dropped, and
the components of a duration are added. The magnitude stays within the 63 bits of `limit`, which
is tested after every component.

In seconds a duration is a binary floating-point number, the nearest one to the exact quotient.
-/

namespace ClusterPlan

open ClusterPlan.Text

/-- A signed number of nanoseconds. -/
structure Duration where
  nanoseconds : Int
  deriving DecidableEq, Repr

namespace Duration

/-- Why a text is no duration. -/
inductive Fault where
  /-- The text does not follow the grammar. -/
  | malformed
  /-- The sum of the components so far exceeds the limit. -/
  | outOfRange
  /-- A run of digits is longer than a numeral may be. -/
  | overlong
  deriving DecidableEq, Repr

/-- The greatest magnitude of a duration, in nanoseconds. -/
def limit : Nat := twoTo 63 - 1

/-- A number and its unit: the digits before and after the point, and the nanoseconds in a unit. -/
structure Component where
  whole : List Char
  fraction : List Char
  unit : Nat
  deriving DecidableEq, Repr

/-- The nanoseconds in the unit that a text begins with, and what follows the unit. -/
def unit? : List Char → Option (Nat × List Char)
  | 'n' :: 's' :: rest => some (1, rest)
  | 'u' :: 's' :: rest => some (1000, rest)
  | 'µ' :: 's' :: rest => some (1000, rest)
  | 'μ' :: 's' :: rest => some (1000, rest)
  | 'm' :: 's' :: rest => some (1000000, rest)
  | 's' :: rest => some (1000000000, rest)
  | 'm' :: rest => some (60 * 1000000000, rest)
  | 'h' :: rest => some (3600 * 1000000000, rest)
  | _ => none

/-- The digits before and after the point of the number that a text begins with, at least one digit
in all, and what follows the number. -/
def number? (cs : List Char) : Option (List Char × List Char × List Char) :=
  let whole := cs.takeWhile isDecimalDigit
  match cs.dropWhile isDecimalDigit with
  | '.' :: rest =>
    let fraction := rest.takeWhile isDecimalDigit
    if whole.isEmpty && fraction.isEmpty then none
    else some (whole, fraction, rest.dropWhile isDecimalDigit)
  | rest => if whole.isEmpty then none else some (whole, [], rest)

/-- The component that a text begins with, and what follows it. -/
def component? (cs : List Char) : Option (Component × List Char) :=
  match number? cs with
  | some (whole, fraction, rest) =>
    (unit? rest).map fun (unit, rest) => (⟨whole, fraction, unit⟩, rest)
  | none => none

/-- The nanoseconds that a component counts for. -/
def Component.nanoseconds (c : Component) : Nat :=
  Numeral.ofDigits c.whole * c.unit +
    Numeral.ofDigits c.fraction * c.unit / tenTo c.fraction.length

/-- A component whose runs of digits are short enough to be read. -/
def Component.isReadable (c : Component) : Bool :=
  c.whole.length ≤ Numeral.digitLimit && c.fraction.length ≤ Numeral.digitLimit

theorem length_unit? {cs rest : List Char} {unit : Nat} (h : unit? cs = some (unit, rest)) :
    rest.length < cs.length := by
  unfold unit? at h
  split at h <;> simp at h <;> obtain ⟨-, rfl⟩ := h <;> simp only [List.length_cons] <;> omega

theorem length_dropWhile_le (p : Char → Bool) (cs : List Char) :
    (cs.dropWhile p).length ≤ cs.length :=
  (List.dropWhile_suffix p).length_le

theorem length_number? {cs whole fraction rest : List Char}
    (h : number? cs = some (whole, fraction, rest)) : rest.length ≤ cs.length := by
  have hdrop := length_dropWhile_le isDecimalDigit cs
  unfold number? at h
  split at h
  · next tail htail =>
    have htail' := length_dropWhile_le isDecimalDigit tail
    rw [htail, List.length_cons] at hdrop
    dsimp only at h
    split at h
    · simp at h
    · simp at h
      obtain ⟨-, -, rfl⟩ := h
      omega
  · dsimp only at h
    split at h
    · simp at h
    · simp at h
      obtain ⟨-, -, rfl⟩ := h
      exact hdrop

theorem length_component? {cs rest : List Char} {c : Component}
    (h : component? cs = some (c, rest)) : rest.length < cs.length := by
  unfold component? at h
  split at h
  · next whole fraction tail hnumber =>
    cases hunit : unit? tail with
    | none => simp [hunit] at h
    | some pair =>
      obtain ⟨unit, after⟩ := pair
      simp [hunit] at h
      obtain ⟨-, rfl⟩ := h
      have := length_unit? hunit
      have := length_number? hnumber
      omega
  · simp at h

/-- The sum of the components of a text, added to what went before them. -/
def sum (total : Nat) (cs : List Char) : Except Fault Nat :=
  if cs.isEmpty then .ok total
  else match _h : component? cs with
    | none => .error .malformed
    | some (c, rest) =>
      if !c.isReadable then .error .overlong
      else
        let total := total + c.nanoseconds
        if limit < total then .error .outOfRange else sum total rest
termination_by cs.length
decreasing_by exact length_component? _h

/-- The duration that a text denotes. -/
def read (s : String) : Except Fault Duration :=
  let (negative, unsigned) := Numeral.cutSign s.toList
  if unsigned = ['0'] then .ok ⟨0⟩
  else if unsigned.isEmpty then .error .malformed
  else (sum 0 unsigned).map fun total => ⟨if negative then -(total : Int) else total⟩

/-- A duration in seconds. -/
def seconds (d : Duration) : Binary64 :=
  Binary64.ofRatio (d.nanoseconds < 0) d.nanoseconds.natAbs (tenTo 9)

/-- The wording of a fault of a given text; there is none for a numeral that cannot be read. -/
def Fault.message? (text : String) : Fault → Option String
  | .malformed => some s!"invalid duration {quoted text}"
  | .outOfRange => some s!"invalid duration {quoted text}: out of range"
  | .overlong => none

end Duration

end ClusterPlan
