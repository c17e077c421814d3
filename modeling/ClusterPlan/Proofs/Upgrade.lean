import ClusterPlan.Proofs.Acceptance
import ClusterPlan.Proofs.Catalogue

/-!
# A newer version is never judged more strictly

A new Kubernetes cluster that names its version gets that version if it is offered
(`Orchestration.resolvedVersion_withVersion`). From then on the version occurs in two kinds of rule:
those that ask for a minimum, which a newer version meets as well (`checkMinimum_of_newer`), and
those that ask whether a version is offered, for Linux or for Windows.

So every rule that a plan keeps is kept after an upgrade (`Plan.Upgrade.lawful`), and
`Plan.accepted_of_newer_version` concludes that it stays accepted. Nothing is assumed of the minimum
versions: a rule with a minimum that denotes no version rejects the older version already.
-/

namespace ClusterPlan

/-! ## Rules about a version -/

section version

variable {s : Settings} {v w : String}

theorem checkMinimum_of_newer (hnewer : AtLeast w v) {minimum : String}
    {conflict conflict' : Conflict} (h : checkMinimum v minimum conflict = .ok ()) :
    checkMinimum w minimum conflict' = .ok () :=
  checkMinimum_eq_ok.2 (hnewer.trans (checkMinimum_eq_ok.1 h))

/-- The settings of Kubernetes that suit a version suit a newer one that is offered. -/
theorem Kubernetes.check_of_newer {k : Kubernetes} (hw : w ∈ Catalogue.kubernetes.offered)
    (hnewer : AtLeast w v) (h : k.check s v = .ok ()) : k.check s w = .ok () := by
  have hoffered : supportsBackoff w = true := Catalogue.offers_eq_true.2 hw
  simp only [check, then_eq_ok, checkCloudController, checkWhen_eq_ok] at h ⊢
  obtain ⟨hsubnet, hbridge, hpods, hretries, hmasquerade, heviction, hroutes, -, -, hservices,
    hetcd, hcontroller⟩ := h
  exact ⟨hsubnet, hbridge, hpods, hretries, hmasquerade, heviction, hroutes,
    by simp [refuse_eq_ok, hoffered], by simp [refuse_eq_ok, supportsRateLimit, hoffered],
    hservices, hetcd, fun hused => checkMinimum_of_newer hnewer (hcontroller hused)⟩

/-- The features that suit a version suit a newer one. The version that was asked for only goes into
the diagnostics. -/
theorem Kubernetes.checkFeatures_of_newer {k : Kubernetes} {requested requested' : String}
    (hnewer : AtLeast w v) (h : k.checkFeatures s v requested = .ok ()) :
    k.checkFeatures s w requested' = .ok () := by
  simp only [checkFeatures, checkAggregatedAPIs, checkDataEncryption, checkExternalKms,
    checkPodSecurity, checkWhen_eq_ok, then_eq_ok] at h ⊢
  obtain ⟨hapis, hencryption, hkms, hpodSecurity⟩ := h
  refine ⟨fun hused => ?_, fun hused => ?_, fun hused => ?_, fun hused => ?_⟩
  · exact (hapis hused).imp_left (checkMinimum_of_newer hnewer)
  · exact (hencryption hused).imp_left (checkMinimum_of_newer hnewer)
  · exact checkMinimum_of_newer hnewer (hkms hused)
  · exact (hpodSecurity hused).imp_right (checkMinimum_of_newer hnewer)

end version

/-! ## Plans with another version -/

/-- The orchestrator with another requested version. -/
def Orchestration.withVersion (version : String) (o : Orchestration) : Orchestration :=
  { o with version }

/-- The plan with another requested version. -/
def Plan.withVersion (version : String) (p : Plan) : Plan :=
  { p with orchestration := p.orchestration.withVersion version }

/-- A version that is offered and named alone is the one that the plan comes to. -/
theorem Orchestration.resolvedVersion_withVersion {mode : Mode} {o : Orchestration} {v : String}
    (hk : o.runs .kubernetes = true) (hrelease : o.release = "") {windows : Bool}
    (hv : v ∈ (Catalogue.of windows .kubernetes).offered) :
    (o.withVersion v).resolvedVersion mode windows = .ok v := by
  obtain ⟨hplain, hsome⟩ := Catalogue.dropV_of_mem_offered hv
  have hresolve : (Catalogue.of windows .kubernetes).resolve o.release v = some v :=
    (Catalogue.resolve_version_eq_some (by rwa [hplain])).2
      ⟨hplain.symm, by rwa [hplain], .inl (by rw [hrelease]; rfl)⟩
  exact resolvedVersion_eq_ok.2 (.inl ((resolveVersion_kubernetes hk _ _ _).trans hresolve))

/-- The version of a Kubernetes plan that names it alone may be raised from `v` to `w`. -/
structure Plan.Upgrade (p : Plan) (v w : String) : Prop where
  kubernetes : p.orchestration.runs .kubernetes = true
  noRelease : p.orchestration.release = ""
  offeredBefore : v ∈ Catalogue.kubernetes.offered
  offered : w ∈ Catalogue.kubernetes.offered
  newer : AtLeast w v
  windows : p.hasWindows = true → runsOnWindows w = true

namespace Plan.Upgrade

variable {s : Settings} {mode : Mode} {p : Plan} {v w : String} (u : p.Upgrade v w)
include u

theorem resolvedBefore : (p.withVersion v).orchestration.resolvedVersion mode false = .ok v :=
  Orchestration.resolvedVersion_withVersion u.kubernetes u.noRelease u.offeredBefore

theorem resolved : (p.withVersion w).orchestration.resolvedVersion mode false = .ok w :=
  Orchestration.resolvedVersion_withVersion u.kubernetes u.noRelease u.offered

theorem resolvedForWindows (hwindows : p.hasWindows = true) :
    (p.withVersion w).orchestration.resolvedVersion mode true = .ok w :=
  Orchestration.resolvedVersion_withVersion u.kubernetes u.noRelease
    (Catalogue.offers_eq_true.1 (u.windows hwindows))

theorem checkOrchestration (h : (p.withVersion v).orchestration.check s .create = .ok ()) :
    (p.withVersion w).orchestration.check s .create = .ok () := by
  have hruns : ∀ version, (p.withVersion version).orchestration.runs .kubernetes = true :=
    fun _ => u.kubernetes
  rw [Orchestration.check_eq_ok_of_runs (hruns _)] at h ⊢
  obtain ⟨hown, hsections⟩ := h
  refine ⟨?_, hsections⟩
  obtain ⟨version, hversion, hsettings⟩ := bind_eq_ok.1 hown
  obtain rfl : v = version := Except.ok.inj (u.resolvedBefore.symm.trans hversion)
  refine bind_eq_ok.2 ⟨w, u.resolved, ?_⟩
  rw [checkSome_eq_ok] at hsettings ⊢
  intro k hsome
  obtain ⟨hcheck, hfeatures⟩ := then_eq_ok.1 (hsettings k hsome)
  exact then_eq_ok.2
    ⟨k.check_of_newer u.offered u.newer hcheck, k.checkFeatures_of_newer u.newer hfeatures⟩

theorem checkScaleSet {pool : Pool}
    (h : pool.checkScaleSet s mode (p.withVersion v).orchestration = .ok ()) :
    pool.checkScaleSet s mode (p.withVersion w).orchestration = .ok () := by
  rw [Pool.checkScaleSet_eq_ok] at h ⊢
  intro hcounts
  obtain ⟨⟨version, hversion, hminimum, hmetadata⟩, hstorage⟩ := h hcounts
  obtain rfl : v = version := Except.ok.inj (u.resolvedBefore.symm.trans hversion)
  exact ⟨⟨w, u.resolved, u.newer.trans hminimum, fun hused => u.newer.trans (hmetadata hused)⟩,
    hstorage⟩

theorem checkWindows (hwindows : p.hasWindows = true)
    (h : Pool.checkWindows mode (p.withVersion v) = .ok ()) :
    Pool.checkWindows mode (p.withVersion w) = .ok () := by
  rw [Pool.checkWindows_eq_ok] at h ⊢
  obtain ⟨horchestrator, -, haccess⟩ := h
  have hsame : (p.withVersion w).hasWindows = true := hwindows
  rw [hsame]
  exact ⟨horchestrator, fun _ => ⟨w, u.resolvedForWindows hwindows, u.windows hwindows⟩, haccess⟩

theorem lawfulPool {pool : Pool} (hpool : pool ∈ p.pools)
    (h : pool.Lawful s mode (p.withVersion v)) : pool.Lawful s mode (p.withVersion w) :=
  { h with
    scaleSet := fun _ => u.checkScaleSet (h.scaleSet u.kubernetes)
    windows := fun hos =>
      have hhas : p.hasWindows = true := Pool.hasWindows_eq_true.2 ⟨pool, hpool, hos⟩
      u.checkWindows hhas (h.windows hos) }

/-- All other rules do not look at the version. -/
theorem lawful (h : (p.withVersion v).Lawful s .create) : (p.withVersion w).Lawful s .create :=
  { h with
    orchestration := u.checkOrchestration h.orchestration
    pools := fun pool hpool => u.lawfulPool hpool (h.pools pool hpool) }

end Plan.Upgrade

namespace Plan

/-- **A newer version is never judged more strictly.** A new Kubernetes cluster that is accepted
with one offered version, named alone, is accepted with every offered version that is at least as
new, provided that it runs on Windows if a pool does. -/
theorem accepted_of_newer_version (s : Settings) (p : Plan) (v w : String)
    (hkubernetes : p.orchestration.runs .kubernetes = true)
    (hrelease : p.orchestration.release = "") (hv : v ∈ Catalogue.kubernetes.offered)
    (hw : w ∈ Catalogue.kubernetes.offered) (hnewer : AtLeast w v)
    (hwindows : p.hasWindows = true → runsOnWindows w = true)
    (h : ((p.withVersion v).validate s .create).2 = .ok ()) :
    ((p.withVersion w).validate s .create).2 = .ok () := by
  have hupgrade : p.Upgrade v w := ⟨hkubernetes, hrelease, hv, hw, hnewer, hwindows⟩
  have hlawful : (p.withVersion v).Lawful s .create := accepted_iff_lawful.1 h
  exact accepted_iff_lawful.2 (hupgrade.lawful hlawful)

theorem fleet_upgrade :
    AtLeast "1.10.4" "1.10.2" ∧
      ((fleet.withVersion "1.10.2").validate .standard .create).2 = .ok () ∧
      ((fleet.withVersion "1.10.4").validate .standard .create).2 = .ok () := by
  have hnewer : AtLeast "1.10.4" "1.10.2" := meetsMinimum_eq_true.1 rfl
  have haccepted : ((fleet.withVersion "1.10.2").validate .standard .create).2 = .ok () := by rfl
  exact ⟨hnewer, haccepted, accepted_of_newer_version .standard fleet "1.10.2" "1.10.4" (by decide)
    rfl (by decide) (by decide) hnewer (fun _ => by decide) haccepted⟩

end Plan

end ClusterPlan
