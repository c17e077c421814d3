import ClusterPlan.Proofs.Acceptance
import ClusterPlan.Proofs.Catalogue

/-!
# The version of a cluster with Windows

A Kubernetes plan is asked for its version twice: by the rules for the orchestrator, and by those
for a pool with Windows, which look the request up in the catalogue for Windows. What the cluster
gets is the first answer, and what has to run on Windows is the second one.

If the request resolves for Windows, both answers are the same. If it does not, an existing cluster
gets a patch for the version that it names, both times from the catalogue for Linux, and this is
where the answers may part: a request for the minor release of the preview that names no version
(`Orchestration.AsksForPreview`) comes to the preview for the cluster, and to the default version
for the pool. `Plan.windows_version_of_accepted` states that this is the only such request, and
`Plan.slippedFleet_accepted` that it does get through.
-/

namespace ClusterPlan

namespace Orchestration

/-- An existing cluster asks for the minor release of the preview and names no version. -/
def AsksForPreview (mode : Mode) (o : Orchestration) : Prop :=
  mode = .update ∧ Catalogue.dropV o.release = Catalogue.previewSeries ∧ o.version = ""

variable {mode : Mode} {o : Orchestration} (hk : o.runs .kubernetes = true)
include hk

/-- Who asks for the preview gets the preview. -/
theorem AsksForPreview.resolvedVersion (h : o.AsksForPreview mode) :
    o.resolvedVersion mode false = .ok Catalogue.preview := by
  obtain ⟨-, hrelease, hversion⟩ := h
  refine resolvedVersion_eq_ok.2 (.inl ?_)
  rw [resolveVersion_kubernetes hk, hversion]
  exact Catalogue.resolve_previewSeries hrelease rfl

/-- The two answers to the question for the version are the same, unless the first one is the
preview. Then the request asks for the preview, or the second answer is the preview as well. -/
theorem resolvedVersion_agree {linux windows : String}
    (hlinux : o.resolvedVersion mode false = .ok linux)
    (hwindows : o.resolvedVersion mode true = .ok windows) :
    linux = windows ∨ o.AsksForPreview mode ∨ windows = Catalogue.preview := by
  rw [resolvedVersion_eq_ok, resolveVersion_kubernetes hk] at hlinux hwindows
  rw [patchVersion_kubernetes hk] at hlinux hwindows
  rcases hwindows with hresolved | ⟨hnone, hupdate, hpatch⟩
  · -- the request resolves for Windows, and so to the same version for Linux
    have hsame := Catalogue.resolve_kubernetes_of_windows hresolved
    rcases hlinux with hlinux | ⟨hnone, -⟩
    · exact .inl (Option.some.inj (hlinux.symm.trans hsame))
    · cases hsame.symm.trans hnone
  · rcases hlinux with hresolved | ⟨-, -, hpatch'⟩
    · -- the request resolves for Linux alone, and so to the preview
      have hpreview := Catalogue.eq_preview_of_resolve hresolved hnone
      rw [hpreview] at hresolved
      rcases Catalogue.patchFor_of_resolve_preview hresolved hnone hpatch with ⟨hseries, hno⟩ | h
      · exact .inr (.inl ⟨hupdate, hseries, hno⟩)
      · exact .inr (.inr h)
    · -- both times it is the patch
      have hsame := Except.ok.inj (hpatch'.symm.trans hpatch)
      exact .inl (Option.some.inj hsame)

end Orchestration

theorem runsOnWindows_preview : runsOnWindows Catalogue.preview = false := by
  refine Bool.eq_false_iff.2 fun h => ?_
  exact Catalogue.preview_not_mem_offered_windows (Catalogue.offers_eq_true.1 h)

namespace Plan

variable {s : Settings} {mode : Mode} {p : Plan}

/-- What the rules for a pool with Windows have found out about the version. -/
theorem Lawful.windowsVersion (h : p.Lawful s mode) (hk : p.orchestration.runs .kubernetes = true)
    (hwindows : p.hasWindows = true) :
    ∃ version, p.orchestration.resolvedVersion mode true = .ok version ∧
      runsOnWindows version = true := by
  obtain ⟨pool, hpool, hos⟩ := Pool.hasWindows_eq_true.1 hwindows
  obtain ⟨-, hversion, -⟩ := Pool.checkWindows_eq_ok.1 ((h.pools pool hpool).windows hos)
  rw [hwindows] at hversion
  exact hversion hk

/-- **The version of a cluster with Windows.** A Kubernetes plan with a pool of Windows that is
accepted comes to a version, and this version runs on Windows unless an existing cluster asks for
the minor release of the preview and names no version. -/
theorem windows_version_of_accepted (s : Settings) (mode : Mode) (p : Plan)
    (hkubernetes : p.orchestration.runs .kubernetes = true) (hwindows : p.hasWindows = true)
    (h : (p.validate s mode).2 = .ok ()) :
    ∃ version, p.orchestration.resolvedVersion mode false = .ok version ∧
      (runsOnWindows version = true ↔ ¬ p.orchestration.AsksForPreview mode) := by
  have hlawful : p.Lawful s mode := accepted_iff_lawful.1 h
  obtain ⟨version, hversion⟩ :=
    Orchestration.exists_resolvedVersion hkubernetes hlawful.orchestration
  obtain ⟨checked, hchecked, hruns⟩ := hlawful.windowsVersion hkubernetes hwindows
  refine ⟨version, hversion, ?_, fun hnot => ?_⟩
  · intro hversionRuns hasks
    have hpreview := (hasks.resolvedVersion hkubernetes).symm.trans hversion
    rw [← Except.ok.inj hpreview, runsOnWindows_preview] at hversionRuns
    cases hversionRuns
  · rcases Orchestration.resolvedVersion_agree hkubernetes hversion hchecked with
      rfl | hasks | rfl
    · exact hruns
    · exact absurd hasks hnot
    · rw [runsOnWindows_preview] at hruns
      cases hruns

theorem fleet_windows_version :
    (fleet.orchestration.runs .kubernetes = true ∧ fleet.hasWindows = true ∧
      (fleet.validate .standard .update).2 = .ok ()) ∧
    ∃ version, fleet.orchestration.resolvedVersion .update false = .ok version ∧
      (runsOnWindows version = true ↔ ¬ fleet.orchestration.AsksForPreview .update) := by
  have hkubernetes : fleet.orchestration.runs .kubernetes = true := by decide
  have hwindows : fleet.hasWindows = true := by decide
  have haccepted : (fleet.validate .standard .update).2 = .ok () := by rfl
  exact ⟨⟨hkubernetes, hwindows, haccepted⟩,
    windows_version_of_accepted .standard .update fleet hkubernetes hwindows haccepted⟩

/-- The cluster of scale sets, asking for the minor release of the preview. -/
def slippedFleet : Plan :=
  { fleet with orchestration := { fleet.orchestration with release := "1.11", version := "" } }

/-- A preview that does not run on Windows gets through with a pool of Windows. -/
theorem slippedFleet_accepted :
    slippedFleet.orchestration.runs .kubernetes = true ∧ slippedFleet.hasWindows = true ∧
      (slippedFleet.validate .standard .update).2 = .ok () ∧
      ¬ ∃ version, slippedFleet.orchestration.resolvedVersion .update false = .ok version ∧
        runsOnWindows version = true := by
  refine ⟨by decide, by decide, by rfl, ?_⟩
  rintro ⟨version, hversion, hruns⟩
  have hpreview : slippedFleet.orchestration.resolvedVersion .update false =
      .ok Catalogue.preview := by rfl
  rw [← Except.ok.inj (hpreview.symm.trans hversion), runsOnWindows_preview] at hruns
  cases hruns

end Plan

end ClusterPlan
