import ClusterPlan.Proofs.Acceptance
import ClusterPlan.Proofs.Access
import ClusterPlan.Proofs.Network

/-!
# What acceptance guarantees of a Kubernetes cluster

The rules about the pools of a Kubernetes cluster look at one pool each, or compare it with the
first one. `Plan.SoundKubernetes` states what they come to for the plan as a whole: all pools are
grouped alike, scale sets have a version and disks that allow for them, the autoscaler finds scale
sets everywhere, the network suits every operating system, labels are well-formed, and the cluster
has an identity. `Plan.soundKubernetes_of_accepted` derives it for every plan that is accepted, in
either mode.
-/

namespace ClusterPlan

namespace Pool

/-- A pool whose machines form scale sets: it says so, or leaves the grouping open. -/
def MayScale (p : Pool) : Prop :=
  p.availabilityProfile = "" ∨ p.availabilityProfile = "VirtualMachineScaleSets"

theorem countsAsScaleSet_eq_true {p : Pool} : p.countsAsScaleSet = true ↔ p.MayScale := by
  simp [countsAsScaleSet, isScaleSet, MayScale]

theorem usesMetadata_eq_true {o : Orchestration} :
    usesMetadata o = true ↔ ∀ k ∈ o.kubernetes, k.useInstanceMetadata ≠ some false := by
  simp [usesMetadata, Option.any_eq_false]

end Pool

namespace Plan

/-- What acceptance guarantees of a Kubernetes cluster, for the plan as a whole. -/
structure SoundKubernetes (s : Settings) (mode : Mode) (p : Plan) : Prop where
  sameGrouping : ∀ a ∈ p.pools, ∀ b ∈ p.pools, a.availabilityProfile = b.availabilityProfile
  knownGrouping : ∀ pool ∈ p.pools,
    pool.availabilityProfile ∈ ["", "AvailabilitySet", "VirtualMachineScaleSets"]
  distinctNames : p.pools.Pairwise fun a b => a.name ≠ b.name
  /-- The version that the plan comes to is new enough for scale sets, and for instance metadata
  unless these are switched off. -/
  scaleSetVersion : (∃ pool ∈ p.pools, pool.MayScale) →
    ∃ version, p.orchestration.resolvedVersion mode false = .ok version ∧
      AtLeast version s.scaleSetMinimum ∧
      ((∀ k ∈ p.kubernetes, k.useInstanceMetadata ≠ some false) →
        AtLeast version s.scaleSetMetadataMinimum)
  scaleSetStorage : ∀ pool ∈ p.pools, pool.MayScale → pool.storageProfile ≠ "StorageAccount"
  /-- Data disks need a storage and a grouping that are chosen explicitly. -/
  dataDisks : ∀ pool ∈ p.pools, pool.diskSizesGB ≠ [] →
    pool.storageProfile ∈ ["StorageAccount", "ManagedDisks"] ∧
      pool.availabilityProfile ∈ ["AvailabilitySet", "VirtualMachineScaleSets"]
  autoscaler : (∃ k ∈ p.kubernetes, ∃ a ∈ k.addons,
      a.name = "cluster-autoscaler" ∧ a.enabled = some true) →
    ∀ pool ∈ p.pools, pool.availabilityProfile = "VirtualMachineScaleSets"
  network : (p.kubernetesText (·.networkPlugin), p.kubernetesText (·.networkPolicy)) ∈
    Network.supported
  windowsNetwork : (∃ pool ∈ p.pools, pool.osType = "Windows") →
    p.kubernetesText (·.networkPolicy) ∉ ["calico", "cilium"] ∧
      p.kubernetesText (·.containerRuntime) ∉ ["clear-containers", "containerd"]
  labelKeys : ∀ pool ∈ p.pools, ∀ label ∈ pool.nodeLabels.entries,
    s.patterns.labelKey label.1 = true ∧
      ∀ length ∈ Identifier.domainLength? label.1, (length : Int) ≤ s.labelDomainLimit
  labelValues : ∀ pool ∈ p.pools, ∀ label ∈ pool.nodeLabels.entries,
    label.2 = "" ∨ s.patterns.labelValue label.2 = true
  /-- A cluster without an identity of its own has a service principal that it can use. -/
  principal : (∀ k ∈ p.kubernetes, k.useManagedIdentity = false) →
    ∃ principal ∈ p.servicePrincipal, principal.Usable s.patterns
      (p.kubernetes.any (·.enableEncryptionWithExternalKms == some true))

/-- What acceptance guarantees of the networks, in terms of the settings of Kubernetes. -/
theorem SoundKubernetes.of_kubernetes {s : Settings} {mode : Mode} {p : Plan} {k : Kubernetes}
    (h : p.SoundKubernetes s mode) (hk : p.kubernetes = some k) :
    (k.networkPlugin, k.networkPolicy) ∈ Network.supported ∧
      ((∃ pool ∈ p.pools, pool.osType = "Windows") → k.networkPolicy ∉ ["calico", "cilium"] ∧
        k.containerRuntime ∉ ["clear-containers", "containerd"]) := by
  have hwindows := h.windowsNetwork
  have hnetwork := h.network
  simp only [kubernetesText_some hk] at hwindows hnetwork
  exact ⟨hnetwork, hwindows⟩

namespace Lawful

variable {s : Settings} {mode : Mode} {p : Plan} (h : p.Lawful s mode)
include h

theorem knownGrouping : ∀ pool ∈ p.pools,
    pool.availabilityProfile ∈ ["", "AvailabilitySet", "VirtualMachineScaleSets"] :=
  fun pool hpool => (Pool.checkChoices_eq_ok.1 (h.pools pool hpool).choices).1

theorem distinctNames : p.pools.Pairwise fun a b => a.name ≠ b.name :=
  List.pairwise_map.1 (Pool.checkNames_eq_ok.1 h.poolNames)

theorem dataDisks : ∀ pool ∈ p.pools, pool.diskSizesGB ≠ [] →
    pool.storageProfile ∈ ["StorageAccount", "ManagedDisks"] ∧
      pool.availabilityProfile ∈ ["AvailabilitySet", "VirtualMachineScaleSets"] := by
  intro pool hpool hdisks
  obtain ⟨hstorage, hgrouping, -⟩ := Pool.checkDisks_eq_ok.1 (h.pools pool hpool).disks hdisks
  refine ⟨?_, ?_⟩
  · rcases hstorage with hstorage | hstorage <;> rw [hstorage] <;> decide
  · rcases hgrouping with hgrouping | hgrouping <;> rw [hgrouping] <;> decide

/-- The autoscaler finds no pool that is an availability set or leaves the grouping open, and there
is only one grouping left. -/
theorem autoscaler (hauto : ∃ k ∈ p.kubernetes, ∃ a ∈ k.addons,
      a.name = "cluster-autoscaler" ∧ a.enabled = some true) :
    ∀ pool ∈ p.pools, pool.availabilityProfile = "VirtualMachineScaleSets" := by
  obtain ⟨k, hkub, a, ha, hname, henabled⟩ := hauto
  intro pool hpool
  obtain ⟨hopen, hset⟩ := checkAddons_eq_ok.1 h.addons k hkub a ha hname henabled pool hpool
  have hknown := h.knownGrouping pool hpool
  simpa [hopen, hset] using hknown

variable (hk : p.orchestration.runs .kubernetes = true)
include hk

/-- Every pool is grouped like the first one, so all are grouped alike. -/
theorem sameGrouping :
    ∀ a ∈ p.pools, ∀ b ∈ p.pools, a.availabilityProfile = b.availabilityProfile := by
  intro a ha b hb
  obtain ⟨first, hfirst⟩ : ∃ first, p.pools.head? = some first :=
    Option.ne_none_iff_exists'.1 fun hnil => by simp_all
  have hlike : ∀ pool ∈ p.pools, pool.availabilityProfile = first.availabilityProfile :=
    fun pool hpool =>
      Pool.checkSameAvailability_eq_ok.1 ((h.pools pool hpool).sameAvailability hk) first hfirst
  exact (hlike a ha).trans (hlike b hb).symm

theorem scaleSet {pool : Pool} (hpool : pool ∈ p.pools) (hscale : pool.MayScale) :
    (∃ version, p.orchestration.resolvedVersion mode false = .ok version ∧
      AtLeast version s.scaleSetMinimum ∧
      ((∀ k ∈ p.kubernetes, k.useInstanceMetadata ≠ some false) →
        AtLeast version s.scaleSetMetadataMinimum)) ∧
      pool.storageProfile ≠ "StorageAccount" := by
  have hrule := Pool.checkScaleSet_eq_ok.1 ((h.pools pool hpool).scaleSet hk)
  rw [Pool.usesMetadata_eq_true] at hrule
  exact hrule (Pool.countsAsScaleSet_eq_true.2 hscale)

theorem windowsNetwork (hwindows : ∃ pool ∈ p.pools, pool.osType = "Windows") :
    p.kubernetesText (·.networkPolicy) ∉ ["calico", "cilium"] ∧
      p.kubernetesText (·.containerRuntime) ∉ ["clear-containers", "containerd"] := by
  have hhas : p.hasWindows = true := by
    simpa only [Pool.hasWindows_eq_true, Pool.isWindows_eq_true] using hwindows
  exact ⟨(checkNetworkPolicy_eq_ok.1 h.networkPolicy hk).2 hhas,
    (checkContainerRuntime_eq_ok.1 h.containerRuntime hk).2 hhas⟩

theorem labels {pool : Pool} (hpool : pool ∈ p.pools) :
    ∀ label ∈ pool.nodeLabels.entries, checkLabel s label = .ok () := by
  obtain ⟨-, -, -, -, -, hlabels⟩ := Pool.checkChoices_eq_ok.1 (h.pools pool hpool).choices
  exact hlabels hk

theorem soundKubernetes : p.SoundKubernetes s mode where
  sameGrouping := h.sameGrouping hk
  knownGrouping := h.knownGrouping
  distinctNames := h.distinctNames
  scaleSetVersion := fun ⟨_, hpool, hscale⟩ => (h.scaleSet hk hpool hscale).1
  scaleSetStorage := fun _ hpool hscale => (h.scaleSet hk hpool hscale).2
  dataDisks := h.dataDisks
  autoscaler := h.autoscaler
  network := checkNetworkPair_eq_ok.1 h.networkPair
  windowsNetwork := h.windowsNetwork hk
  labelKeys := fun _ hpool label hlabel =>
    have hrule := checkLabel_eq_ok.1 (h.labels hk hpool label hlabel)
    ⟨hrule.1, hrule.2.1⟩
  labelValues := fun _ hpool label hlabel =>
    (checkLabel_eq_ok.1 (h.labels hk hpool label hlabel)).2.2
  principal := checkServicePrincipal_eq_ok.1 h.servicePrincipal hk

end Lawful

/-- **What acceptance guarantees of a Kubernetes cluster.** Every Kubernetes plan that is accepted,
for a new cluster or for an existing one, is sound as a whole. -/
theorem soundKubernetes_of_accepted (s : Settings) (mode : Mode) (p : Plan)
    (hkubernetes : p.orchestration.runs .kubernetes = true)
    (h : (p.validate s mode).2 = .ok ()) : p.SoundKubernetes s mode :=
  Lawful.soundKubernetes (accepted_iff_lawful.1 h) hkubernetes

theorem fleet_soundKubernetes :
    fleet.orchestration.runs .kubernetes = true ∧ (fleet.validate .standard .create).2 = .ok () ∧
      fleet.SoundKubernetes .standard .create := by
  have hkubernetes : fleet.orchestration.runs .kubernetes = true := by decide
  have haccepted : (fleet.validate .standard .create).2 = .ok () := by rfl
  exact ⟨hkubernetes, haccepted, soundKubernetes_of_accepted .standard .create fleet hkubernetes
    haccepted⟩

end Plan

end ClusterPlan
