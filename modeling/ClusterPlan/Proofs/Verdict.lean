import ClusterPlan.Fault
import ClusterPlan.Proofs.Outcome

/-!
# Rules in sequence

How a sequence of rules and the look-ups between them succeeds. A look-up that fails ends the
sequence, so the sequence succeeds iff the look-up does and what follows holds of the value found
(`bind_eq_ok`). A sequence has a fault that its first rule never has iff the first rule holds and
the rest has the fault (`then_eq_error`). Which faults rules can have is told by `Meets` rule by
rule.
-/

namespace ClusterPlan

/-- A step and what follows it. -/
theorem bind_eq_ok {α β : Type} {step : Except Fault α} {next : α → Except Fault β} {b : β} :
    step >>= next = .ok b ↔ ∃ a, step = .ok a ∧ next a = .ok b := by
  cases step with
  | error fault => simp [bind, Except.bind]
  | ok a => simp [bind, Except.bind]

/-- A step whose value does not count. -/
theorem discard_eq_ok {α : Type} {step : Except Fault α} :
    (discard step : Verdict) = .ok () ↔ ∃ a, step = .ok a := by
  cases step with
  | error fault => simp [discard, Functor.discard, Functor.mapConst, Except.map]
  | ok a => simp [discard, Functor.discard, Functor.mapConst, Except.map]

/-- A fault that the first of two rules does not have. -/
theorem then_eq_error {first second : Verdict} {fault : Fault} (h : first ≠ .error fault) :
    (do first; second) = .error fault ↔ first = .ok () ∧ second = .error fault := by
  cases first with
  | error fault' => simpa [bind, Except.bind] using h
  | ok => simp [bind, Except.bind]

theorem refuse_ne_error {broken : Bool} {fault fault' : Fault} (h : fault ≠ fault') :
    refuse broken fault ≠ .error fault' := by
  cases broken with
  | false => exact nofun
  | true => simpa [refuse] using h

/-- A fault that neither a step nor what follows it has. -/
theorem bind_ne_error {α β : Type} {step : Except Fault α} {next : α → Except Fault β}
    {fault : Fault} (hstep : step ≠ .error fault) (hnext : ∀ a, next a ≠ .error fault) :
    step >>= next ≠ .error fault := by
  cases step with
  | error fault' => simpa [bind, Except.bind] using hstep
  | ok a => exact hnext a

theorem checkEach_map {α β : Type} (f : α → β) (rule : β → Verdict) (as : List α) :
    checkEach rule (as.map f) = checkEach (fun a => rule (f a)) as := by
  induction as with
  | nil => rfl
  | cons a as ih => rw [List.map_cons, checkEach, checkEach, ih]

namespace Meets

variable {fails : Fault → Prop}

theorem refuse {broken : Bool} {fault : Fault} (h : fails fault) :
    Meets fails (fun _ => True) (ClusterPlan.refuse broken fault) := by
  cases broken with
  | false => exact trivial
  | true => exact h

theorem checkWhen {condition : Bool} {rule : Verdict} (h : Meets fails (fun _ => True) rule) :
    Meets fails (fun _ => True) (ClusterPlan.checkWhen condition rule) := by
  cases condition with
  | false => exact trivial
  | true => exact h

theorem checkEach {α : Type} {rule : α → Verdict} {as : List α}
    (h : ∀ a ∈ as, Meets fails (fun _ => True) (rule a)) :
    Meets fails (fun _ => True) (ClusterPlan.checkEach rule as) := by
  induction as with
  | nil => exact trivial
  | cons a as ih =>
    obtain ⟨ha, has⟩ := List.forall_mem_cons.1 h
    exact ha.bind fun _ _ => ih has

end Meets

end ClusterPlan
