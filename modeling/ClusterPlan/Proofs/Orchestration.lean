import ClusterPlan.Proofs.Verdict
import ClusterPlan.Rules.Orchestration

/-!
# What the rules for the orchestrator say

A plan names one orchestrator (`Orchestration.runs_unique`), and its own rules and the one against
settings of another orchestrator make up the check (`Orchestration.check_eq_ok`). The version that a
plan comes to is the one that its request resolves to, or on an update the patch that takes its
place (`Orchestration.resolvedVersion_eq_ok`).
-/

namespace ClusterPlan

theorem Orchestrator.name_injective {a b : Orchestrator} (h : a.name = b.name) : a = b := by
  have hfound := Orchestrator.ofName?_name a
  rw [h, Orchestrator.ofName?_name] at hfound
  exact (Option.some.inj hfound).symm

namespace Orchestration

variable {s : Settings} {mode : Mode} {o : Orchestration} {orchestrator : Orchestrator}

theorem runs_eq_true : o.runs orchestrator = true ↔ o.type = orchestrator.name := by
  simp [runs]

/-- A plan runs one orchestrator. -/
theorem runs_unique {a b : Orchestrator} (ha : o.runs a = true) (hb : o.runs b = true) : a = b :=
  Orchestrator.name_injective ((runs_eq_true.1 ha).symm.trans (runs_eq_true.1 hb))

/-! ## Versions -/

/-- The version that a plan comes to: what its request resolves to, or, if that is nothing, on an
update the patch that takes its place. -/
theorem resolvedVersion_eq_ok {windows : Bool} {version : String} :
    o.resolvedVersion mode windows = .ok version ↔
      resolveVersion o.type o.release o.version windows = some version ∨
        (resolveVersion o.type o.release o.version windows = none ∧ mode = .update ∧
          patchVersion o.type o.version = .ok (some version)) := by
  unfold resolvedVersion
  cases resolveVersion o.type o.release o.version windows with
  | some found => simp
  | none =>
    cases mode with
    | create => simp
    | update =>
      cases patchVersion o.type o.version with
      | error fault => cases fault <;> simp
      | ok found => cases found <;> simp

variable (hk : o.runs .kubernetes = true)
include hk

theorem resolveVersion_kubernetes (release version : String) (windows : Bool) :
    resolveVersion o.type release version windows =
      (Catalogue.of windows .kubernetes).resolve release version := by
  rw [resolveVersion, Catalogue.ofName?, runs_eq_true.1 hk, Orchestrator.ofName?_name]
  rfl

theorem patchVersion_kubernetes (version : String) :
    patchVersion o.type version = Catalogue.kubernetes.patchFor version := by
  rw [patchVersion, Catalogue.ofName?, runs_eq_true.1 hk, Orchestrator.ofName?_name]
  rfl

omit hk

/-! ## The check -/

/-- When the settings belong to the orchestrator. -/
theorem checkSections_eq_ok :
    o.checkSections = .ok () ↔
      (o.kubernetes ≠ none → o.runs .kubernetes = true ∨ o.runs .openShift = true) ∧
      (o.openShift ≠ none → o.runs .openShift = true) ∧
      (∀ d ∈ o.dcos, d.isEmpty = false → o.runs .dcos = true) := by
  simp only [checkSections, then_eq_ok, refuse_eq_ok]
  refine and_congr ?_ (and_congr ?_ ?_)
  · cases o.kubernetes <;> simp [Decidable.or_iff_not_imp_left]
  · cases o.openShift <;> simp
  · cases o.runs .dcos <;> simp [Option.any_eq_false]

/-- When an orchestrator is in order: it is a known one, its own rules hold, and there are no
settings of another one. -/
theorem check_eq_ok :
    o.check s mode = .ok () ↔
      (∃ orchestrator, o.runs orchestrator = true ∧ o.checkOwn s mode orchestrator = .ok ()) ∧
        o.checkSections = .ok () := by
  unfold check
  cases ho : Orchestrator.ofName? o.type with
  | none =>
    refine iff_of_false (by simp) ?_
    rintro ⟨⟨orchestrator, hruns, -⟩, -⟩
    rw [runs_eq_true.1 hruns, Orchestrator.ofName?_name] at ho
    cases ho
  | some known =>
    have hknown : o.runs known = true :=
      runs_eq_true.2 (Orchestrator.name_of_ofName? ho).symm
    rw [then_eq_ok]
    refine and_congr_left fun _ => ⟨fun h => ⟨known, hknown, h⟩, ?_⟩
    rintro ⟨orchestrator, hruns, h⟩
    rwa [runs_unique hknown hruns]

/-- When a known orchestrator is in order. -/
theorem check_eq_ok_of_runs (h : o.runs orchestrator = true) :
    o.check s mode = .ok () ↔
      o.checkOwn s mode orchestrator = .ok () ∧ o.checkSections = .ok () := by
  rw [check_eq_ok]
  refine and_congr_left fun _ => ⟨?_, fun hown => ⟨orchestrator, h, hown⟩⟩
  rintro ⟨known, hknown, hown⟩
  rwa [runs_unique h hknown]

/-- When the settings of OpenShift are in order. -/
theorem checkOpenShift_eq_ok :
    o.checkOpenShift = .ok () ↔
      (o.version = unstable ∨ ∃ v, resolveVersion o.type o.release o.version false = some v) ∧
        ∃ c ∈ o.openShift, c.clusterUsername ≠ "" ∧ c.clusterPassword ≠ "" := by
  simp only [checkOpenShift, then_eq_ok, refuse_eq_ok]
  refine and_congr ?_ ?_
  · cases resolveVersion o.type o.release o.version false <;> simp
  · cases o.openShift <;> simp

/-- A Kubernetes plan whose orchestrator is in order comes to a version. -/
theorem exists_resolvedVersion (hk : o.runs .kubernetes = true) (h : o.check s mode = .ok ()) :
    ∃ version, o.resolvedVersion mode false = .ok version := by
  obtain ⟨hown, -⟩ := (check_eq_ok_of_runs hk).1 h
  cases mode with
  | create =>
    obtain ⟨version, hversion, -⟩ := bind_eq_ok.1 hown
    exact ⟨version, hversion⟩
  | update => exact discard_eq_ok.1 hown

end Orchestration

end ClusterPlan
