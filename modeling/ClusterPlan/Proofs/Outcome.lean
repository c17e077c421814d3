/-!
# Outcomes of readers

A reader that may fail is described by two properties: `Meets fails holds outcome` says that a fault
has the first and a value the second. The property of a reader made of steps follows from those of
its steps (`Meets.bind`, `Meets.foldlM`), so each function of a reader needs one lemma.
-/

namespace ClusterPlan

/-- A fault has one property, and a value has another. -/
def Meets {ε α : Type} (fails : ε → Prop) (holds : α → Prop) : Except ε α → Prop
  | .error e => fails e
  | .ok a => holds a

namespace Meets

variable {ε α β : Type} {fails : ε → Prop} {holds : α → Prop} {holds' : β → Prop}
  {outcome : Except ε α}

theorem ok {a : α} (h : holds a) : Meets fails holds (.ok a) := h

theorem error {e : ε} (h : fails e) : Meets fails holds (.error e) := h

/-- What holds of every result holds of the one that there is. -/
theorem of_ok (h : Meets fails holds outcome) {a : α} (heq : outcome = .ok a) : holds a := by
  rw [heq] at h
  exact h

/-- What holds of every fault holds of the one that there is. -/
theorem of_error (h : Meets fails holds outcome) {e : ε} (heq : outcome = .error e) : fails e := by
  rw [heq] at h
  exact h

/-- What is known about an outcome may be said in part. -/
theorem mono (h : Meets fails holds outcome) {fails' : ε → Prop} {holds' : α → Prop}
    (hfails : ∀ e, fails e → fails' e) (hholds : ∀ a, holds a → holds' a) :
    Meets fails' holds' outcome := by
  cases outcome with
  | error e => exact hfails e h
  | ok a => exact hholds a h

theorem weaken (h : Meets fails holds outcome) {holds' : α → Prop}
    (hholds : ∀ a, holds a → holds' a) : Meets fails holds' outcome :=
  h.mono (fun _ he => he) hholds

/-- A fault that never occurs need not be accounted for. -/
theorem imp_of_ne {e : ε} {cause : Prop} (h : Meets (· ≠ e) holds outcome) :
    Meets (fun e' => e' = e → cause) holds outcome :=
  h.mono (fun _ hne heq => absurd heq hne) fun _ ha => ha

/-- Two steps, one after the other: the first may fail in the ways of both, and the second goes on
from what holds of its result. -/
theorem bind {next : α → Except ε β} (h : Meets fails holds outcome)
    (hnext : ∀ a, holds a → Meets fails holds' (next a)) :
    Meets fails holds' (outcome >>= next) := by
  cases outcome with
  | error e => exact h
  | ok a => exact hnext a h

/-- An outcome that is one of two. -/
theorem ite {condition : Prop} [Decidable condition] {first second : Except ε α}
    (hfirst : condition → Meets fails holds first)
    (hsecond : ¬ condition → Meets fails holds second) :
    Meets fails holds (if condition then first else second) := by
  by_cases h : condition
  · rw [if_pos h]
    exact hfirst h
  · rw [if_neg h]
    exact hsecond h

/-- Every step of a loop keeps an invariant. -/
theorem foldlM (invariant : β → Prop) {step : β → α → Except ε β} {as : List α}
    (hstep : ∀ b, ∀ a ∈ as, invariant b → Meets fails invariant (step b a)) {b : β}
    (hb : invariant b) : Meets fails invariant (as.foldlM step b) := by
  induction as generalizing b with
  | nil => exact hb
  | cons a as ih =>
    rw [List.foldlM_cons]
    refine bind (hstep b a List.mem_cons_self hb) ?_
    intro b' hb'
    exact ih (fun b'' a' ha' => hstep b'' a' (List.mem_cons_of_mem a ha')) hb'

end Meets

end ClusterPlan
