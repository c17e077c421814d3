import ClusterPlan.Proofs.Name
import ClusterPlan.Proofs.Orchestration
import ClusterPlan.Proofs.Verdict
import ClusterPlan.Proofs.VersionOrder
import ClusterPlan.Rules.Machine

/-!
# What the rules for a pool say

Each group of rules for a pool, as the property that it checks. `Pool.checkPublic_eq_ok` is about
the public name and the ports: Kubernetes allows neither, ports need a public name, and they must
not be repeated. `Pool.checkWithin_eq_ok` lists the rules that look at the whole plan, and
`Pool.checkScaleSet_eq_ok` and `Pool.checkWindows_eq_ok` are the two of them that ask for the
version that the plan comes to.
-/

namespace ClusterPlan

namespace Pool

variable {s : Settings} {mode : Mode} {plan : Plan} {p : Pool}

/-- When the name, the operating system, the public name and the ports of a pool are in order. -/
theorem checkPublic_eq_ok {orchestrator : String} :
    p.checkPublic s orchestrator = .ok () ↔
      checkPoolName p.name s.patterns = .ok () ∧ checkOsType p.osType = .ok () ∧
      (orchestrator = Orchestrator.kubernetes.name → p.dnsPrefix = "" ∧ p.ports = []) ∧
      (p.dnsPrefix = "" → p.ports = []) ∧
      (p.dnsPrefix ≠ "" → checkDnsName p.dnsPrefix s.patterns = .ok () ∧ p.ports.Nodup) := by
  simp only [checkPublic, then_eq_ok, checkWhen_eq_ok, refuse_eq_ok, checkPorts_eq_ok]
  simp

/-- When the data disks of a pool are in order. -/
theorem checkDisks_eq_ok :
    p.checkDisks = .ok () ↔
      (p.diskSizesGB ≠ [] →
        (p.storageProfile = storageAccount ∨ p.storageProfile = managedDisks) ∧
        (p.availabilityProfile = scaleSets ∨ p.availabilityProfile = availabilitySet) ∧
        (p.storageProfile = storageAccount → p.availabilityProfile ≠ scaleSets)) := by
  simp only [checkDisks, checkWhen_eq_ok, then_eq_ok, refuse_eq_ok, isScaleSet, isAvailabilitySet,
    scaleSets, availabilitySet]
  simp [Decidable.or_iff_not_imp_left]

/-- When the grouping, the role, the storage and the labels suit the orchestrator. -/
theorem checkChoices_eq_ok {o : Orchestration} :
    p.checkChoices s o = .ok () ↔
      p.availabilityProfile ∈ availabilityProfiles ∧
      (o.runs .openShift = true → p.availabilityProfile = availabilitySet) ∧
      (p.role = "" ∨ (o.runs .openShift = true ∧ p.role = "infra")) ∧
      (o.runs .openShift = true → p.storageProfile = managedDisks) ∧
      (p.nodeLabels.entries ≠ [] → o.runs .dcos = true ∨ o.runs .kubernetes = true) ∧
      (o.runs .kubernetes = true →
        ∀ label ∈ p.nodeLabels.entries, checkLabel s label = .ok ()) := by
  simp only [checkChoices, checkWhen_eq_ok, then_eq_ok, refuse_eq_ok, checkEach_eq_ok,
    isAvailabilitySet, availabilitySet]
  simp [Decidable.or_iff_not_imp_left]

/-- When a pool of scale sets is in order: the version is new enough and no disk is stored in a
storage account. -/
theorem checkScaleSet_eq_ok {o : Orchestration} :
    p.checkScaleSet s mode o = .ok () ↔
      (p.countsAsScaleSet = true →
        (∃ version, o.resolvedVersion mode false = .ok version ∧
          AtLeast version s.scaleSetMinimum ∧
          (usesMetadata o = true → AtLeast version s.scaleSetMetadataMinimum)) ∧
        p.storageProfile ≠ storageAccount) := by
  rw [checkScaleSet, checkWhen_eq_ok, bind_eq_ok]
  simp only [then_eq_ok, checkWhen_eq_ok, checkMinimum_eq_ok, refuse_eq_ok]
  refine imp_congr_right fun _ => ?_
  constructor
  · rintro ⟨version, hversion, hminimum, hmetadata, hstorage⟩
    exact ⟨⟨version, hversion, hminimum, hmetadata⟩, by simpa using hstorage⟩
  · rintro ⟨⟨version, hversion, hminimum, hmetadata⟩, hstorage⟩
    exact ⟨version, hversion, hminimum, hmetadata, by simpa using hstorage⟩

theorem isWindows_eq_true : p.isWindows = true ↔ p.osType = "Windows" := by
  simp [isWindows]

/-- A plan has Windows iff one of its pools does. -/
theorem hasWindows_eq_true :
    plan.hasWindows = true ↔ ∃ pool ∈ plan.pools, pool.isWindows = true := by
  rw [Plan.hasWindows, List.any_eq_true]

/-- When a plan may have pools with Windows. -/
theorem checkWindows_eq_ok :
    checkWindows mode plan = .ok () ↔
      (∃ orchestrator ∈ windowsOrchestrators, plan.orchestration.runs orchestrator = true) ∧
      (plan.orchestration.runs .kubernetes = true →
        ∃ version, plan.orchestration.resolvedVersion mode plan.hasWindows = .ok version ∧
          runsOnWindows version = true) ∧
      ∃ access, plan.windows = some access ∧ access.check = .ok () := by
  simp only [checkWindows, then_eq_ok, checkWhen_eq_ok, refuse_eq_ok, checkSome_eq_ok]
  simp only [bind_eq_ok, refuse_eq_ok]
  cases plan.windows <;> simp

/-- When the rules within a plan hold of a pool. -/
theorem checkWithin_eq_ok :
    p.checkWithin s mode plan = .ok () ↔
      p.checkChoices s plan.orchestration = .ok () ∧
      (plan.orchestration.runs .kubernetes = true →
        p.checkScaleSet s mode plan.orchestration = .ok () ∧
          p.checkSameAvailability plan = .ok ()) ∧
      (p.isWindows = true → checkWindows mode plan = .ok ()) := by
  simp only [checkWithin, then_eq_ok, checkWhen_eq_ok]

/-- The rule for the grouping compares with the first pool. -/
theorem checkSameAvailability_eq_ok :
    p.checkSameAvailability plan = .ok () ↔
      ∀ first ∈ plan.pools.head?, p.availabilityProfile = first.availabilityProfile := by
  simp [checkSameAvailability, refuse_eq_ok, Option.any_eq_false]

/-- The plan around a pool with Windows matters only in that it has Windows. -/
theorem checkWindows_congr {plan' : Plan} (ho : plan'.orchestration = plan.orchestration)
    (hw : plan'.windows = plan.windows) (hh : plan'.hasWindows = plan.hasWindows) :
    checkWindows mode plan' = checkWindows mode plan := by
  unfold checkWindows
  rw [ho, hw, hh]

end Pool

end ClusterPlan
