import ClusterPlan.Proofs.Machine
import ClusterPlan.Proofs.Run

/-!
# An existing cluster is judged more leniently

Three rules depend on what a plan is for: the one for the orchestrator, and for a pool those for
scale sets and for Windows. All three ask for the version that the plan comes to, and a version
that a new cluster comes to is the one that an existing cluster comes to
(`Orchestration.resolvedVersion_update_of_create`). Beyond the version a new cluster only has more
rules to keep.

So each of the three rules holds of an existing cluster once it holds of a new one, and
`Plan.accepted_update_of_create` concludes that a plan accepted for a new cluster is accepted for an
existing one, with the same plan as the result.
-/

namespace ClusterPlan

/-! ## Versions and orchestrators -/

namespace Orchestration

variable {s : Settings} {o : Orchestration}

/-- A new cluster takes its version from the catalogue, and so does an existing one: the way out
that an existing cluster has is not needed. -/
theorem resolvedVersion_update_of_create {windows : Bool} {version : String}
    (h : o.resolvedVersion .create windows = .ok version) :
    o.resolvedVersion .update windows = .ok version := by
  unfold resolvedVersion at h ⊢
  cases hr : resolveVersion o.type o.release o.version windows with
  | some found =>
    rw [hr] at h
    exact h
  | none =>
    rw [hr] at h
    cases h

/-- The version of a new cluster suffices for what an existing one has to do with it. -/
theorem bind_resolvedVersion_update_of_create {windows : Bool} {α : Type}
    {next : String → Except Fault α} {a : α}
    (h : o.resolvedVersion .create windows >>= next = .ok a) :
    o.resolvedVersion .update windows >>= next = .ok a := by
  obtain ⟨version, hversion, hnext⟩ := bind_eq_ok.1 h
  exact bind_eq_ok.2 ⟨version, resolvedVersion_update_of_create hversion, hnext⟩

theorem checkOwn_update_of_create {orchestrator : Orchestrator}
    (h : o.checkOwn s .create orchestrator = .ok ()) :
    o.checkOwn s .update orchestrator = .ok () := by
  cases orchestrator with
  | dcos =>
    obtain ⟨hresolved, -⟩ := then_eq_ok.1 h
    obtain ⟨version, hversion⟩ := discard_eq_ok.1 hresolved
    exact discard_eq_ok.2 ⟨version, resolvedVersion_update_of_create hversion⟩
  | kubernetes =>
    obtain ⟨version, hversion, -⟩ := bind_eq_ok.1 h
    exact discard_eq_ok.2 ⟨version, resolvedVersion_update_of_create hversion⟩
  | openShift | swarm | swarmMode => rfl

theorem check_update_of_create (h : o.check s .create = .ok ()) : o.check s .update = .ok () := by
  unfold check at h ⊢
  cases ho : Orchestrator.ofName? o.type with
  | none =>
    rw [ho] at h
    cases h
  | some orchestrator =>
    rw [ho] at h
    obtain ⟨hown, hsections⟩ := then_eq_ok.1 h
    exact then_eq_ok.2 ⟨checkOwn_update_of_create hown, hsections⟩

end Orchestration

/-! ## Pools -/

namespace Pool

variable {s : Settings} {plan : Plan} {p : Pool}

theorem checkScaleSet_update_of_create {o : Orchestration}
    (h : p.checkScaleSet s .create o = .ok ()) : p.checkScaleSet s .update o = .ok () := by
  unfold checkScaleSet at h ⊢
  rw [checkWhen_eq_ok] at h ⊢
  intro hscaleSet
  exact Orchestration.bind_resolvedVersion_update_of_create (h hscaleSet)

theorem checkWindows_update_of_create (h : checkWindows .create plan = .ok ()) :
    checkWindows .update plan = .ok () := by
  unfold checkWindows at h ⊢
  simp only [then_eq_ok, checkWhen_eq_ok] at h ⊢
  obtain ⟨horchestrator, hversion, haccess⟩ := h
  refine ⟨horchestrator, fun hkubernetes => ?_, haccess⟩
  exact Orchestration.bind_resolvedVersion_update_of_create (hversion hkubernetes)

theorem checkWithin_update_of_create (h : p.checkWithin s .create plan = .ok ()) :
    p.checkWithin s .update plan = .ok () := by
  rw [checkWithin_eq_ok] at h ⊢
  obtain ⟨hchoices, hkubernetes, hwindows⟩ := h
  refine ⟨hchoices, fun hk => ?_, fun hw => checkWindows_update_of_create (hwindows hw)⟩
  obtain ⟨hscaleSet, hsame⟩ := hkubernetes hk
  exact ⟨checkScaleSet_update_of_create hscaleSet, hsame⟩

theorem Passes.update_of_create (h : p.Passes s .create plan) : p.Passes s .update plan := by
  unfold Passes at h ⊢
  rw [visit_eq_ok] at h ⊢
  obtain ⟨hpublic, hequipment, hwithin⟩ := h
  exact ⟨hpublic, hequipment, checkWithin_update_of_create hwithin⟩

end Pool

/-! ## Plans -/

namespace Plan

variable {s : Settings} {p : Plan}

theorem checkBefore_update_of_create (h : p.checkBefore s .create = .ok ()) :
    p.checkBefore s .update = .ok () := by
  unfold checkBefore at h ⊢
  rw [then_eq_ok, then_eq_ok] at h ⊢
  obtain ⟨hfields, horchestration, hrest⟩ := h
  exact ⟨hfields, Orchestration.check_update_of_create horchestration, hrest⟩

theorem Accepted.update_of_create (h : p.Accepted s .create) : p.Accepted s .update := by
  rw [accepted_iff] at h ⊢
  obtain ⟨hbefore, hpools, hafter⟩ := h
  exact ⟨checkBefore_update_of_create hbefore,
    fun pool hpool => (hpools pool hpool).update_of_create, hafter⟩

/-- **An update is never judged more strictly.** A plan that is accepted for a new cluster is
accepted for an existing one, and both times it comes out the same, ports included. -/
theorem accepted_update_of_create (s : Settings) (p : Plan)
    (h : (p.validate s .create).2 = .ok ()) :
    (p.validate s .update).2 = .ok () ∧ (p.validate s .update).1 = (p.validate s .create).1 := by
  have hcreate : p.Accepted s .create := h
  have hupdate : p.Accepted s .update := hcreate.update_of_create
  exact ⟨hupdate, by rw [hupdate.validate_fst, hcreate.validate_fst]⟩

theorem mixed_update :
    (mixed.validate .standard .create).2 = .ok () ∧
    (mixed.validate .standard .update).2 = .ok () ∧
      (mixed.validate .standard .update).1 = (mixed.validate .standard .create).1 :=
  ⟨by rfl, accepted_update_of_create .standard mixed (by rfl)⟩

end Plan

end ClusterPlan
