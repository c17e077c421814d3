import ClusterPlan.Proofs.KubernetesPlan

/-!
# Pools that leave their grouping open

A pool of a Kubernetes cluster may leave open how its machines are grouped, and then they form
scale sets. `Pool.decided` writes that down: a pool that leaves its grouping open becomes a scale
set explicitly. One expects that this makes no difference, and for most rules it makes none
(`Plan.lawful_decided_iff`).

Two rules read the empty text in another way. The autoscaler takes a pool without a grouping for an
availability set, and the rule against mixed groupings tells it apart from a scale set. So a plan
that is accepted stays accepted once its pools are decided, but not the other way round.
`Plan.accepted_iff_accepted_decided` says how much is missing: if some pool leaves its grouping
open, all of them have to, and the autoscaler has to be off.
-/

namespace ClusterPlan

/-! ## Deciding -/

/-- A pool that says how its machines are grouped: as scale sets, if it left that open. -/
def Pool.decided (p : Pool) : Pool :=
  { p with availabilityProfile :=
      if p.availabilityProfile = "" then Pool.scaleSets else p.availabilityProfile }

/-- A plan all of whose pools say how their machines are grouped. -/
def Plan.decided (p : Plan) : Plan := { p with pools := p.pools.map Pool.decided }

/-- The autoscaler is switched on. -/
def Plan.Autoscales (p : Plan) : Prop :=
  ∃ k ∈ p.kubernetes, ∃ a ∈ k.addons, a.name = Plan.autoscaler ∧ a.enabled = some true

namespace Pool

variable {s : Settings} {mode : Mode} {plan : Plan} {p : Pool}

theorem decided_of_open (h : p.availabilityProfile = "") :
    p.decided.availabilityProfile = scaleSets := by
  rw [decided, if_pos h]

theorem decided_of_chosen (h : p.availabilityProfile ≠ "") : p.decided = p := by
  rw [decided, if_neg h]

/-- A pool that leaves its grouping open counts as a scale set anyway. -/
theorem countsAsScaleSet_decided : p.decided.countsAsScaleSet = p.countsAsScaleSet := by
  by_cases h : p.availabilityProfile = ""
  · have hdecided : p.decided.countsAsScaleSet = true :=
      countsAsScaleSet_eq_true.2 (.inr (decided_of_open h))
    rw [hdecided, countsAsScaleSet_eq_true.2 (.inl h)]
  · rw [decided_of_chosen h]

theorem checkScaleSet_decided (o : Orchestration) :
    p.decided.checkScaleSet s mode o = p.checkScaleSet s mode o := by
  unfold checkScaleSet
  rw [countsAsScaleSet_decided]
  rfl

/-- Both groupings are among those that Kubernetes knows. -/
theorem checkChoices_decided {o : Orchestration} (hk : o.runs .kubernetes = true) :
    p.decided.checkChoices s o = .ok () ↔ p.checkChoices s o = .ok () := by
  by_cases h : p.availabilityProfile = ""
  · have hnot : ¬ o.runs .openShift = true := fun ho =>
      absurd (Orchestration.runs_unique hk ho) (by decide)
    have hdecided : p.decided.availabilityProfile ∈ availabilityProfiles := by
      rw [decided_of_open h]
      decide
    have hopen : p.availabilityProfile ∈ availabilityProfiles := by
      rw [h]
      decide
    rw [checkChoices_eq_ok, checkChoices_eq_ok]
    refine and_congr (iff_of_true hdecided hopen) (and_congr ?_ Iff.rfl)
    exact iff_of_true (fun ho => absurd ho hnot) fun ho => absurd ho hnot
  · rw [decided_of_chosen h]

/-- A pool without data disks has no rule about them to keep. -/
theorem checkDisks_of_none (h : p.diskSizesGB = []) : p.checkDisks = .ok () :=
  checkDisks_eq_ok.2 fun hsome => absurd h hsome

end Pool

namespace Plan

variable {s : Settings} {mode : Mode} {p : Plan}

theorem decided_of_chosen (h : ∀ pool ∈ p.pools, pool.availabilityProfile ≠ "") :
    p.decided = p := by
  have hpools : p.pools.map Pool.decided = p.pools := by
    calc p.pools.map Pool.decided
      _ = p.pools.map id :=
        List.map_congr_left fun pool hpool => Pool.decided_of_chosen (h pool hpool)
      _ = p.pools := List.map_id p.pools
  rw [decided, hpools]

/-! ## Rules that do not look at groupings -/

theorem hasWindows_decided : p.decided.hasWindows = p.hasWindows :=
  p.hasWindows_mapPools fun _ => rfl

theorem checkFields_decided : p.decided.checkFields = p.checkFields := by
  have hpools : ∀ (ps : List Pool) (position : Nat),
      Pool.checkAllFields position (ps.map Pool.decided) = Pool.checkAllFields position ps := by
    intro ps
    induction ps with
    | nil => intro position; rfl
    | cons pool ps ih =>
      intro position
      rw [List.map_cons, Pool.checkAllFields, Pool.checkAllFields, ih]
      rfl
  unfold checkFields
  rw [show p.decided.pools = p.pools.map Pool.decided from rfl, hpools]
  rfl

theorem checkSubnets_decided : p.decided.checkSubnets s = p.checkSubnets s :=
  p.checkSubnets_mapPools s fun _ => rfl

theorem checkNames_decided : Pool.checkNames p.decided.pools = Pool.checkNames p.pools :=
  p.checkNames_mapPools fun _ => rfl

theorem checkNetworkPolicy_decided : p.decided.checkNetworkPolicy = p.checkNetworkPolicy :=
  p.checkNetworkPolicy_mapPools fun _ => rfl

theorem checkContainerRuntime_decided :
    p.decided.checkContainerRuntime = p.checkContainerRuntime :=
  p.checkContainerRuntime_mapPools fun _ => rfl

/-! ## Lawful plans -/

/-- A pool without data disks keeps the rules iff it does once decided, provided that both are
grouped like the pools around them. -/
theorem lawful_pool_decided_iff (hk : p.orchestration.runs .kubernetes = true) {pool : Pool}
    (hdisks : pool.diskSizesGB = [])
    (hsame : pool.decided.checkSameAvailability p.decided = .ok () ↔
      pool.checkSameAvailability p = .ok ()) :
    pool.decided.Lawful s mode p.decided ↔ pool.Lawful s mode p := by
  have hwindows : Pool.checkWindows mode p.decided = Pool.checkWindows mode p :=
    Pool.checkWindows_congr rfl rfl hasWindows_decided
  constructor
  · intro h
    exact {
      publicName := h.publicName
      disks := Pool.checkDisks_of_none hdisks
      image := h.image
      choices := (Pool.checkChoices_decided hk).1 h.choices
      scaleSet := fun hk => (Pool.checkScaleSet_decided _).symm.trans (h.scaleSet hk)
      sameAvailability := fun hk => hsame.1 (h.sameAvailability hk)
      windows := fun hos => hwindows.symm.trans (h.windows hos) }
  · intro h
    exact {
      publicName := h.publicName
      disks := Pool.checkDisks_of_none hdisks
      image := h.image
      choices := (Pool.checkChoices_decided hk).2 h.choices
      scaleSet := fun hk => (Pool.checkScaleSet_decided _).trans (h.scaleSet hk)
      sameAvailability := fun hk => hsame.2 (h.sameAvailability hk)
      windows := fun hos => hwindows.trans (h.windows hos) }

/-- A plan without data disks keeps the rules iff it does once decided, provided that the rules for
the autoscaler and against mixed groupings say the same of both. -/
theorem lawful_decided_iff (hk : p.orchestration.runs .kubernetes = true)
    (hdisks : ∀ pool ∈ p.pools, pool.diskSizesGB = [])
    (haddons : p.decided.checkAddons = .ok () ↔ p.checkAddons = .ok ())
    (hsame : ∀ pool ∈ p.pools, pool.decided.checkSameAvailability p.decided = .ok () ↔
      pool.checkSameAvailability p = .ok ()) :
    p.decided.Lawful s mode ↔ p.Lawful s mode := by
  have hpools : ∀ pool ∈ p.pools,
      (pool.decided.Lawful s mode p.decided ↔ pool.Lawful s mode p) :=
    fun pool hpool => lawful_pool_decided_iff hk (hdisks pool hpool) (hsame pool hpool)
  constructor
  · intro h
    exact { h with
      fields := checkFields_decided.symm.trans h.fields
      networkPolicy := checkNetworkPolicy_decided.symm.trans h.networkPolicy
      containerRuntime := checkContainerRuntime_decided.symm.trans h.containerRuntime
      addons := haddons.1 h.addons
      poolNames := checkNames_decided.symm.trans h.poolNames
      pools := fun pool hpool =>
        (hpools pool hpool).1 (h.pools pool.decided (List.mem_map_of_mem hpool))
      subnets := checkSubnets_decided.symm.trans h.subnets }
  · intro h
    exact { h with
      fields := checkFields_decided.trans h.fields
      networkPolicy := checkNetworkPolicy_decided.trans h.networkPolicy
      containerRuntime := checkContainerRuntime_decided.trans h.containerRuntime
      addons := haddons.2 h.addons
      poolNames := checkNames_decided.trans h.poolNames
      pools := List.forall_mem_map.2 fun pool hpool => (hpools pool hpool).2 (h.pools pool hpool)
      subnets := checkSubnets_decided.trans h.subnets }

/-- In a plan that keeps the rules, a pool may leave its grouping open only if all pools do and the
autoscaler is off. -/
theorem Lawful.open_of_exists_open (h : p.Lawful s mode)
    (hk : p.orchestration.runs .kubernetes = true)
    (hopen : ∃ pool ∈ p.pools, pool.availabilityProfile = "") :
    (∀ pool ∈ p.pools, pool.availabilityProfile = "") ∧ ¬ p.Autoscales := by
  obtain ⟨pool, hpool, hempty⟩ := hopen
  constructor
  · intro other hother
    rw [h.sameGrouping hk other hother pool hpool, hempty]
  · rintro ⟨k, hsettings, addon, haddon, hname, henabled⟩
    have hrule := checkAddons_eq_ok.1 h.addons k hsettings addon haddon hname henabled pool hpool
    exact hrule.1 hempty

/-- If all pools leave their grouping open and the autoscaler is off, deciding makes no
difference. -/
theorem lawful_decided_iff_of_open (hk : p.orchestration.runs .kubernetes = true)
    (hdisks : ∀ pool ∈ p.pools, pool.diskSizesGB = [])
    (hopen : ∀ pool ∈ p.pools, pool.availabilityProfile = "") (hoff : ¬ p.Autoscales) :
    p.decided.Lawful s mode ↔ p.Lawful s mode := by
  refine lawful_decided_iff hk hdisks ?_ ?_
  · have hnone : ∀ k ∈ p.kubernetes, ∀ a ∈ k.addons, a.name = autoscaler →
        ¬ a.enabled = some true :=
      fun k hsettings a ha hname henabled => hoff ⟨k, hsettings, a, ha, hname, henabled⟩
    refine iff_of_true (checkAddons_eq_ok.2 ?_) (checkAddons_eq_ok.2 ?_)
    · exact fun k hsettings a ha hname henabled => absurd henabled (hnone k hsettings a ha hname)
    · exact fun k hsettings a ha hname henabled => absurd henabled (hnone k hsettings a ha hname)
  · intro pool hpool
    refine iff_of_true (Pool.checkSameAvailability_eq_ok.2 ?_)
      (Pool.checkSameAvailability_eq_ok.2 ?_)
    · intro first hfirst
      obtain ⟨source, hsource, rfl⟩ := List.mem_map.1 (List.mem_of_mem_head? hfirst)
      rw [Pool.decided_of_open (hopen pool hpool), Pool.decided_of_open (hopen source hsource)]
    · intro first hfirst
      rw [hopen pool hpool, hopen first (List.mem_of_mem_head? hfirst)]

/-- **What it takes to leave the grouping open.** A Kubernetes plan without data disks is accepted
iff it is accepted with open groupings decided, and besides, if a pool leaves its grouping open,
every pool does and the autoscaler is off. -/
theorem accepted_iff_accepted_decided (s : Settings) (mode : Mode) (p : Plan)
    (hkubernetes : p.orchestration.runs .kubernetes = true)
    (hdisks : ∀ pool ∈ p.pools, pool.diskSizesGB = []) :
    (p.validate s mode).2 = .ok () ↔
      (p.decided.validate s mode).2 = .ok () ∧
        ((∃ pool ∈ p.pools, pool.availabilityProfile = "") →
          (∀ pool ∈ p.pools, pool.availabilityProfile = "") ∧ ¬ p.Autoscales) := by
  show p.Accepted s mode ↔ p.decided.Accepted s mode ∧ _
  rw [accepted_iff_lawful, accepted_iff_lawful]
  by_cases hopen : ∃ pool ∈ p.pools, pool.availabilityProfile = ""
  · constructor
    · intro h
      obtain ⟨hall, hoff⟩ := h.open_of_exists_open hkubernetes hopen
      exact ⟨(lawful_decided_iff_of_open hkubernetes hdisks hall hoff).2 h, fun _ => ⟨hall, hoff⟩⟩
    · rintro ⟨h, hcondition⟩
      obtain ⟨hall, hoff⟩ := hcondition hopen
      exact (lawful_decided_iff_of_open hkubernetes hdisks hall hoff).1 h
  · have hchosen : ∀ pool ∈ p.pools, pool.availabilityProfile ≠ "" :=
      fun pool hpool hempty => hopen ⟨pool, hpool, hempty⟩
    rw [decided_of_chosen hchosen]
    exact ⟨fun h => ⟨h, fun hsome => absurd hsome hopen⟩, fun h => h.1⟩

/-- The fleet without data disks, with its autoscaler on or off and its pools grouped in the given
ways. -/
def fleetOf (autoscaling : Bool) (web legacy : String) : Plan :=
  { fleet with
    orchestration := { fleet.orchestration with
      kubernetes := fleet.kubernetes.map fun k =>
        { k with addons := [⟨"cluster-autoscaler", some autoscaling, .empty⟩] } }
    pools :=
      [⟨"web", 3, "Standard_D2_v2", 0, "", "Linux", [], web, "ManagedDisks", [], "", none, "",
          .empty⟩,
        ⟨"legacy", 2, "Standard_D2_v2", 0, "", "Windows", [], legacy, "", [], "", none, "",
          .empty⟩] }

theorem fleetOf_open_accepted :
    (fleetOf false "" "").orchestration.runs .kubernetes = true ∧
      (∀ pool ∈ (fleetOf false "" "").pools, pool.diskSizesGB = []) ∧
      ((fleetOf false "" "").validate .standard .create).2 = .ok () := by
  have hkubernetes : (fleetOf false "" "").orchestration.runs .kubernetes = true := by decide
  have hdisks : ∀ pool ∈ (fleetOf false "" "").pools, pool.diskSizesGB = [] := by decide
  have hdecided : ((fleetOf false "" "").decided.validate .standard .create).2 = .ok () := by rfl
  have hopen : ∀ pool ∈ (fleetOf false "" "").pools, pool.availabilityProfile = "" := by decide
  have hoff : ¬ (fleetOf false "" "").Autoscales := by
    simp [Autoscales, fleetOf, fleet, kubernetes]
  exact ⟨hkubernetes, hdisks, (accepted_iff_accepted_decided .standard .create _ hkubernetes
    hdisks).2 ⟨hdecided, fun _ => ⟨hopen, hoff⟩⟩⟩

/-- Neither a pool without a grouping beside a scale set nor one under the autoscaler is accepted,
and both are once the pool is decided. -/
theorem fleetOf_open_rejected :
    ((fleetOf false "" "VirtualMachineScaleSets").validate .standard .create).2 =
        .error (.conflict .mixedAvailability) ∧
      ((fleetOf false "" "VirtualMachineScaleSets").decided.validate .standard .create).2 =
        .ok () ∧
      ((fleetOf true "" "").validate .standard .create).2 = .error (.conflict .autoscaler) ∧
      ((fleetOf true "" "").decided.validate .standard .create).2 = .ok () :=
  ⟨by rfl, by rfl, by rfl, by rfl⟩

end Plan

end ClusterPlan
