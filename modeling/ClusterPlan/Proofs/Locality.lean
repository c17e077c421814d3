import ClusterPlan.Proofs.Field
import ClusterPlan.Proofs.Machine
import ClusterPlan.Proofs.Run
import ClusterPlan.Proofs.Subnet
import Mathlib.Data.List.Perm.Basic

/-!
# Pools are judged in pairs

Whether a plan is accepted depends on its pools in a simple way. Each pool is right or wrong by
itself, two pools may be wrong together (they share a name, or Kubernetes finds them grouped in
different ways), and that is all: neither the order of the pools nor any three of them matter.

`Elementwise` and `PairLocal` are the two forms of dependence on a list. The rules that look at
pools are elementwise one by one, except for the names, which must differ, and the grouping, which
Kubernetes compares with that of the first pool. `accepted_withPools` puts them together,
`acceptance_pairLocal` is the law of pairs for whole plans, and
`accepted_pairs_and_order_free` spells out what it means for lists of pools.
-/

namespace ClusterPlan

/-! ## Conditions on lists -/

section conditions

variable {α : Type}

/-- A condition that each element meets or fails by itself, whatever else is in the list. -/
def Elementwise (holds : List α → Prop) : Prop :=
  ∀ as, holds as ↔ holds [] ∧ ∀ a ∈ as, holds [a]

/-- A condition decided by the empty list, the single elements and a relation on pairs. -/
def PairLocal (R : α → α → Prop) (holds : List α → Prop) : Prop :=
  ∀ as, holds as ↔ holds [] ∧ (∀ a ∈ as, holds [a]) ∧ as.Pairwise R

/-- All elements share a feature with the first one iff any two share it. -/
theorem forall_eq_head_iff_pairwise {β : Type} (f : α → β) (as : List α) :
    (∀ a ∈ as, ∀ first ∈ as.head?, f a = f first) ↔ as.Pairwise fun a b => f a = f b := by
  cases as with
  | nil => simp
  | cons first as =>
    constructor
    · intro h
      refine List.pairwise_iff_forall_sublist.2 fun {a b} hsub => ?_
      have ha := h a (hsub.subset (by simp)) first rfl
      have hb := h b (hsub.subset (by simp)) first rfl
      exact ha.trans hb.symm
    · intro h a ha first' hfirst
      obtain rfl : first = first' := by simpa using hfirst
      rcases List.mem_cons.1 ha with rfl | hmem
      · rfl
      · exact (List.rel_of_pairwise_cons h hmem).symm

namespace Elementwise

/-- A condition that does not look at the list. -/
theorem const (c : Prop) : Elementwise fun _ : List α => c :=
  fun _ => ⟨fun h => ⟨h, fun _ _ => h⟩, fun h => h.1⟩

/-- A condition on each element. -/
theorem forall_mem (P : α → Prop) : Elementwise fun as => ∀ a ∈ as, P a := by
  intro as
  simp

/-- Two elementwise conditions together. -/
theorem and {holds holds' : List α → Prop} (h : Elementwise holds) (h' : Elementwise holds') :
    Elementwise fun as => holds as ∧ holds' as := by
  intro as
  have key := and_congr (h as) (h' as)
  constructor
  · intro hs
    obtain ⟨⟨hn, ha⟩, hn', ha'⟩ := key.1 hs
    exact ⟨⟨hn, hn'⟩, fun a hm => ⟨ha a hm, ha' a hm⟩⟩
  · rintro ⟨⟨hn, hn'⟩, ha⟩
    exact key.2 ⟨⟨hn, fun a hm => (ha a hm).1⟩, hn', fun a hm => (ha a hm).2⟩

/-- An elementwise condition that is asked for under a condition of another kind. -/
theorem imp (c : Prop) {holds : List α → Prop} (h : Elementwise holds) :
    Elementwise fun as => c → holds as := by
  intro as
  by_cases hc : c
  · simpa [hc] using h as
  · simp [hc]

theorem congr {holds holds' : List α → Prop} (h : Elementwise holds)
    (heq : ∀ as, holds' as ↔ holds as) : Elementwise holds' := by
  intro as
  rw [heq as, h as, heq []]
  exact and_congr_right fun _ => forall₂_congr fun a _ => (heq [a]).symm

/-- A rule broken by any element of a certain kind. -/
theorem refuse_any (c : Bool) (kind : α → Bool) (fault : Fault) :
    Elementwise fun as => refuse (c && as.any kind) fault = .ok () := by
  intro as
  cases c <;> simp [refuse_eq_ok]

/-- An elementwise condition and a relation on pairs. -/
theorem and_pairwise {holds : List α → Prop} (h : Elementwise holds) (R : α → α → Prop) :
    PairLocal R fun as => holds as ∧ as.Pairwise R := by
  intro as
  show holds as ∧ as.Pairwise R ↔ _
  rw [h as]
  constructor
  · rintro ⟨⟨hn, ha⟩, hR⟩
    exact ⟨⟨hn, .nil⟩, fun a hm => ⟨ha a hm, List.pairwise_singleton R a⟩, hR⟩
  · rintro ⟨⟨hn, -⟩, ha, hR⟩
    exact ⟨⟨hn, fun a hm => (ha a hm).1⟩, hR⟩

end Elementwise

namespace PairLocal

variable {R : α → α → Prop} {holds : List α → Prop}

theorem congr {holds' : List α → Prop} (h : PairLocal R holds)
    (heq : ∀ as, holds' as ↔ holds as) : PairLocal R holds' := by
  intro as
  rw [heq as, h as, heq []]
  exact and_congr_right fun _ => and_congr_left fun _ => forall₂_congr fun a _ => (heq [a]).symm

/-- Part of a good list is good. -/
theorem of_sublist (h : PairLocal R holds) {as bs : List α} (hsub : as.Sublist bs)
    (hbs : holds bs) : holds as := by
  obtain ⟨hn, ha, hR⟩ := (h bs).1 hbs
  exact (h as).2 ⟨hn, fun a hm => ha a (hsub.subset hm), hR.sublist hsub⟩

/-- The order of a list does not matter where the relation is symmetric. -/
theorem perm_iff (h : PairLocal R holds) (hsymm : ∀ {a b}, R a b → R b a) {as bs : List α}
    (hperm : as.Perm bs) : holds as ↔ holds bs := by
  rw [h as, h bs, hperm.pairwise_iff hsymm]
  exact and_congr_right fun _ => and_congr_left fun _ =>
    forall_congr' fun a => imp_congr_left hperm.mem_iff

/-- A list of two elements at least is good iff its pairs are. -/
theorem pairs_iff (h : PairLocal R holds) {as : List α} (hlength : 2 ≤ as.length) :
    holds as ↔ ∀ i j (hij : i < j) (hj : j < as.length), holds [as[i], as[j]] := by
  constructor
  · intro has i j hij hj
    obtain ⟨hn, ha, hR⟩ := (h as).1 has
    refine (h _).2 ⟨hn, ?_, ?_⟩
    · intro a hm
      rcases List.mem_pair.1 hm with rfl | rfl
      · exact ha _ (List.getElem_mem _)
      · exact ha _ (List.getElem_mem _)
    · exact List.pairwise_pair.2 (List.pairwise_iff_getElem.1 hR i j (by omega) hj hij)
  · intro hpairs
    -- every position is the first or the second one of some pair
    have hsingle : ∀ i (hi : i < as.length), holds [as[i]] := by
      intro i hi
      by_cases hlast : i + 1 < as.length
      · exact ((h _).1 (hpairs i (i + 1) (by omega) hlast)).2.1 _ (by simp)
      · exact ((h _).1 (hpairs 0 i (by omega) hi)).2.1 _ (by simp)
    refine (h as).2 ⟨((h _).1 (hpairs 0 1 (by omega) (by omega))).1, ?_, ?_⟩
    · intro a hm
      obtain ⟨i, hi, rfl⟩ := List.getElem_of_mem hm
      exact hsingle i hi
    · refine List.pairwise_iff_getElem.2 fun i j hi hj hij => ?_
      exact List.pairwise_pair.1 ((h _).1 (hpairs i j hij hj)).2.2

end PairLocal

end conditions

/-! ## Two pools together -/

/-- Two pools that may stand in one plan: they have different names and, under Kubernetes, the same
grouping. -/
def Pool.Compatible (o : Orchestration) (a b : Pool) : Prop :=
  a.name ≠ b.name ∧ (o.runs .kubernetes = true → a.availabilityProfile = b.availabilityProfile)

theorem Pool.Compatible.symm {o : Orchestration} {a b : Pool} (h : a.Compatible o b) :
    b.Compatible o a :=
  ⟨h.1.symm, fun hk => (h.2 hk).symm⟩

/-- Pools are compatible in pairs iff their names differ and, under Kubernetes, they are all grouped
alike. -/
theorem Pool.pairwise_compatible {o : Orchestration} {ps : List Pool} :
    ps.Pairwise (Compatible o) ↔ (ps.map Pool.name).Nodup ∧
      (o.runs .kubernetes = true →
        ps.Pairwise fun a b => a.availabilityProfile = b.availabilityProfile) := by
  unfold Compatible
  rw [List.pairwise_and_iff, List.Nodup, List.pairwise_map]
  refine and_congr_right fun _ => ?_
  cases o.runs .kubernetes <;> simp [List.pairwise_of_forall]

/-! ## Rules that look at pools, one by one -/

namespace Plan

/-- A plan with other pools. -/
def withPools (p : Plan) (pools : List Pool) : Plan := { p with pools }

variable (s : Settings) (mode : Mode) (p : Plan)

@[simp] theorem pools_withPools (ps : List Pool) : (p.withPools ps).pools = ps := rfl

@[simp] theorem orchestration_withPools (ps : List Pool) :
    (p.withPools ps).orchestration = p.orchestration := rfl

@[simp] theorem master_withPools (ps : List Pool) : (p.withPools ps).master = p.master := rfl

@[simp] theorem kubernetes_withPools (ps : List Pool) :
    (p.withPools ps).kubernetes = p.kubernetes := rfl

@[simp] theorem kubernetesText_withPools (ps : List Pool) (field : Kubernetes → String) :
    (p.withPools ps).kubernetesText field = p.kubernetesText field := rfl

/-- The fields of a pool are its own. -/
theorem checkFields_elementwise :
    Elementwise fun ps => (p.withPools ps).checkFields = .ok () := by
  have h := ((Elementwise.const (p.master.checkFields = .ok ())).and
    (Elementwise.forall_mem Pool.WellShaped)).and (.const (p.linux.checkFields = .ok ()))
  refine h.congr fun ps => ?_
  rw [checkFields, then_eq_ok, then_eq_ok, Pool.checkAllFields_eq_ok, and_assoc]
  rfl

theorem checkNetworkPolicy_elementwise :
    Elementwise fun ps => (p.withPools ps).checkNetworkPolicy = .ok () := by
  simp only [checkNetworkPolicy, then_eq_ok, orchestration_withPools, kubernetesText_withPools]
  exact (Elementwise.const _).and (Elementwise.refuse_any _ Pool.isWindows _)

theorem checkContainerRuntime_elementwise :
    Elementwise fun ps => (p.withPools ps).checkContainerRuntime = .ok () := by
  simp only [checkContainerRuntime, then_eq_ok, orchestration_withPools, kubernetesText_withPools]
  exact (Elementwise.const _).and (Elementwise.refuse_any _ Pool.isWindows _)

theorem checkAddons_elementwise :
    Elementwise fun ps => (p.withPools ps).checkAddons = .ok () := by
  simp only [checkAddons, hasAvailabilitySets, kubernetes_withPools, pools_withPools]
  exact Elementwise.refuse_any _ _ _

/-- The rules before the pools, without the one for names. -/
theorem checkBefore_eq_ok :
    p.checkBefore s mode = .ok () ↔
      (p.checkFields = .ok () ∧ p.orchestration.check s mode = .ok () ∧
        p.checkNetworkPlugin = .ok () ∧ p.checkNetworkPolicy = .ok () ∧
        p.checkNetworkPair = .ok () ∧ p.checkContainerRuntime = .ok () ∧
        p.checkAddons = .ok () ∧ p.master.check p.orchestration s.patterns = .ok () ∧
        p.checkMasterStorage = .ok ()) ∧
      (p.pools.map Pool.name).Nodup := by
  simp only [checkBefore, then_eq_ok, Pool.checkNames_eq_ok]
  tauto

/-- Each pool is compared with the master nodes, so the subnets of two pools need not be compared.
-/
theorem checkSubnets_elementwise :
    Elementwise fun ps => (p.withPools ps).checkSubnets s = .ok () := by
  have hmixed := Elementwise.forall_mem fun pool : Pool =>
    pool.isCustomVnet = p.master.isCustomVnet
  cases hm : readSubnet p.master.vnetSubnetID s.patterns with
  | error fault =>
    refine (hmixed.and (.imp (p.master.isCustomVnet = true) (.const False))).congr fun ps => ?_
    simp [checkSubnets_eq_ok, hm]
  | ok master =>
    refine (hmixed.and (.imp (p.master.isCustomVnet = true)
      ((Elementwise.forall_mem fun pool => pool.checkSubnet s master = .ok ()).and
        (.const (p.master.checkAddresses = .ok ()))))).congr fun ps => ?_
    simp [checkSubnets_eq_ok, hm]

theorem checkAfter_elementwise :
    Elementwise fun ps => (p.withPools ps).checkAfter s = .ok () := by
  simp only [checkAfter, then_eq_ok]
  exact (Elementwise.const (p.linux.check = .ok ())).and <|
    (p.checkSubnets_elementwise s).and <|
    (Elementwise.const (p.checkServicePrincipal s = .ok ())).and <|
    (Elementwise.const (p.checkDirectory = .ok ())).and <|
    (Elementwise.const (p.checkAccount = .ok ())).and <|
    (Elementwise.const (p.checkExtensions s = .ok ())).and <|
    .const (p.checkWindowsImage = .ok ())

end Plan

/-! ## The loop over the pools -/

namespace Pool

variable {s : Settings} {mode : Mode} {plan : Plan} {p : Pool}

/-- A pool passes among others iff it passes alone and has the grouping of the first one, if
Kubernetes asks for that. -/
theorem passes_withPools {ps : List Pool} (hmem : p ∈ ps) :
    p.Passes s mode (plan.withPools ps) ↔
      p.Passes s mode (plan.withPools [p]) ∧
        (plan.orchestration.runs .kubernetes = true →
          ∀ first ∈ ps.head?, p.availabilityProfile = first.availabilityProfile) := by
  have hwindows : p.isWindows = true →
      checkWindows mode (plan.withPools ps) = checkWindows mode (plan.withPools [p]) := by
    intro hp
    have hps : (plan.withPools ps).hasWindows = true := List.any_eq_true.2 ⟨p, hmem, hp⟩
    have hone : (plan.withPools [p]).hasWindows = true := List.any_eq_true.2 ⟨p, by simp, hp⟩
    exact checkWindows_congr rfl rfl (hps.trans hone.symm)
  unfold Passes
  simp only [visit_eq_ok, checkWithin_eq_ok, checkSameAvailability_eq_ok,
    Plan.orchestration_withPools, Plan.pools_withPools]
  constructor
  · rintro ⟨hpublic, hequipment, hchoices, hkubernetes, hwin⟩
    refine ⟨⟨hpublic, hequipment, hchoices, fun hk => ⟨(hkubernetes hk).1, by simp⟩, ?_⟩,
      fun hk => (hkubernetes hk).2⟩
    exact fun hp => hwindows hp ▸ hwin hp
  · rintro ⟨⟨hpublic, hequipment, hchoices, hkubernetes, hwin⟩, hfirst⟩
    refine ⟨hpublic, hequipment, hchoices, fun hk => ⟨(hkubernetes hk).1, hfirst hk⟩, ?_⟩
    exact fun hp => (hwindows hp).symm ▸ hwin hp

end Pool

/-! ## Whole plans -/

namespace Plan

variable (s : Settings) (mode : Mode) (p : Plan)

/-- The part of acceptance that each pool decides by itself. -/
def Admits (ps : List Pool) : Prop :=
  ((p.withPools ps).checkFields = .ok () ∧ p.orchestration.check s mode = .ok () ∧
    p.checkNetworkPlugin = .ok () ∧ (p.withPools ps).checkNetworkPolicy = .ok () ∧
    p.checkNetworkPair = .ok () ∧ (p.withPools ps).checkContainerRuntime = .ok () ∧
    (p.withPools ps).checkAddons = .ok () ∧
    p.master.check p.orchestration s.patterns = .ok () ∧ p.checkMasterStorage = .ok ()) ∧
  (∀ pool ∈ ps, pool.Passes s mode (p.withPools [pool])) ∧ (p.withPools ps).checkAfter s = .ok ()

/-- What a pool decides by itself it decides for any list that it is in. -/
theorem admits_elementwise : Elementwise (p.Admits s mode) := by
  refine Elementwise.and ?_ (.and (.forall_mem _) (p.checkAfter_elementwise s))
  exact p.checkFields_elementwise.and <| (Elementwise.const _).and <|
    (Elementwise.const _).and <| p.checkNetworkPolicy_elementwise.and <|
    (Elementwise.const _).and <| p.checkContainerRuntime_elementwise.and <|
    p.checkAddons_elementwise.and <| (Elementwise.const _).and (.const _)

/-- A plan with some pools is accepted iff each pool is admitted and any two are compatible. -/
theorem accepted_withPools (ps : List Pool) :
    (p.withPools ps).Accepted s mode ↔
      p.Admits s mode ps ∧ ps.Pairwise (Pool.Compatible p.orchestration) := by
  have hloop : (∀ pool ∈ ps, pool.Passes s mode (p.withPools ps)) ↔
      (∀ pool ∈ ps, pool.Passes s mode (p.withPools [pool])) ∧
        (p.orchestration.runs .kubernetes = true →
          ps.Pairwise fun a b => a.availabilityProfile = b.availabilityProfile) := by
    rw [← forall_eq_head_iff_pairwise Pool.availabilityProfile ps]
    constructor
    · intro h
      exact ⟨fun a ha => ((Pool.passes_withPools ha).1 (h a ha)).1,
        fun hk a ha => ((Pool.passes_withPools ha).1 (h a ha)).2 hk⟩
    · rintro ⟨halone, hsame⟩ a ha
      exact (Pool.passes_withPools ha).2 ⟨halone a ha, fun hk => hsame hk a ha⟩
  rw [accepted_iff, checkBefore_eq_ok, Pool.pairwise_compatible, Admits]
  simp only [pools_withPools, hloop]
  tauto

/-- Acceptance is decided by the plan without pools, its single pools and its pairs of pools. -/
theorem acceptance_pairLocal :
    PairLocal (Pool.Compatible p.orchestration) fun ps => (p.withPools ps).Accepted s mode :=
  ((p.admits_elementwise s mode).and_pairwise _).congr (p.accepted_withPools s mode)

/-- **Pools are judged in pairs.** A plan with two pools at least is accepted iff it is accepted
with any two of them alone, in their order; the order of the pools does not matter; and pools can
be left out of an accepted plan. -/
theorem accepted_pairs_and_order_free :
    (∀ ps : List Pool, 2 ≤ ps.length →
      ((p.withPools ps).Accepted s mode ↔
        ∀ i j (hij : i < j) (hj : j < ps.length),
          (p.withPools [ps[i], ps[j]]).Accepted s mode)) ∧
    (∀ ps qs : List Pool, ps.Perm qs →
      ((p.withPools ps).Accepted s mode ↔ (p.withPools qs).Accepted s mode)) ∧
    (∀ ps qs : List Pool, ps.Sublist qs →
      (p.withPools qs).Accepted s mode → (p.withPools ps).Accepted s mode) := by
  have h := p.acceptance_pairLocal s mode
  refine ⟨fun ps hlength => h.pairs_iff hlength, fun ps qs hperm => ?_, fun ps qs hsub => ?_⟩
  · exact h.perm_iff Pool.Compatible.symm hperm
  · exact h.of_sublist hsub

/-- A plan with pools of both systems is accepted, so its pairs of pools are, and so is the plan
with its pools the other way round. -/
theorem mixed_pairs_and_order_free :
    (mixed.withPools mixed.pools).Accepted .standard .create ∧
    (∀ i j (hij : i < j) (hj : j < mixed.pools.length),
      (mixed.withPools [mixed.pools[i], mixed.pools[j]]).Accepted .standard .create) ∧
    (mixed.withPools mixed.pools.reverse).Accepted .standard .create := by
  have haccepted : (mixed.withPools mixed.pools).Accepted .standard .create := by rfl
  obtain ⟨hpairs, hperm, -⟩ := accepted_pairs_and_order_free .standard .create mixed
  exact ⟨haccepted, (hpairs _ (by decide)).1 haccepted,
    (hperm _ _ (List.reverse_perm _).symm).1 haccepted⟩

end Plan

end ClusterPlan
