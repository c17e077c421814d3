import ClusterPlan.Proofs.Verdict
import ClusterPlan.Rules.Subnet

/-!
# What the rules for subnets say

`Plan.checkSubnets_eq_ok` states when the subnets of all nodes are in order: either no node has one
of its own, or all have, and each pool's path agrees with that of the master nodes.

Agreement with the master nodes is agreement of any two nodes, so the rule can be said without an
order or a node that the others are compared with: `Plan.JoinsOneNetwork` is that condition, and
`Plan.checkSubnets_iff` says that it decides, and what a broken rule is told as. Nodes of both kinds
are told before any path is read.

The pattern for paths is a setting that nobody checks. One that divides a path into other than four
parts breaks the rule, and no diagnostic can say so (`Plan.checkSubnets_of_three_parts`).
-/

namespace ClusterPlan

open ClusterPlan.Identifier

/-- When the subnets of a plan are in order. -/
theorem Plan.checkSubnets_eq_ok {s : Settings} {p : Plan} :
    p.checkSubnets s = .ok () ↔
      (∀ pool ∈ p.pools, pool.isCustomVnet = p.master.isCustomVnet) ∧
      (p.master.isCustomVnet = true →
        ∃ master, readSubnet p.master.vnetSubnetID s.patterns = .ok master ∧
          (∀ pool ∈ p.pools, pool.checkSubnet s master = .ok ()) ∧
          p.master.checkAddresses = .ok ()) := by
  unfold checkSubnets
  rw [then_eq_ok, checkWhen_eq_ok, refuse_eq_ok, bind_eq_ok]
  simp only [then_eq_ok, checkEach_eq_ok]
  simp

/-! ## The parts of the rule -/

/-- A path fits the pattern for subnets, and the pattern makes other than four parts of it. -/
def MakesOtherParts (patterns : Patterns) (path : String) : Prop :=
  ∃ parts, patterns.subnetPath path = some parts ∧ parts.length ≠ 4

/-- A path that cannot be read does not fit the pattern, or does not get four parts from it. -/
theorem readSubnet_meets {patterns : Patterns} (path : String) :
    Meets (fun fault => fault = .malformed (.subnetPath path) ∨
        (fault = .subnetParts ∧ MakesOtherParts patterns path))
      (fun _ => True) (readSubnet path patterns) := by
  unfold readSubnet
  split
  · exact .error (.inl rfl)
  · next parts hparts =>
    split
    · exact .ok trivial
    · next hnone => exact .error (.inr ⟨rfl, parts, hparts, SubnetPath.ofParts?_eq_none.1 hnone⟩)

theorem Identifier.SubnetPath.sameNetwork_eq_true {path path' : SubnetPath} :
    path.sameNetwork path' = true ↔
      path.subscription = path'.subscription ∧ path.group = path'.group ∧
        path.network = path'.network := by
  simp [SubnetPath.sameNetwork, and_assoc]

theorem Pool.checkSubnet_eq_ok {s : Settings} {master : SubnetPath} {p : Pool} :
    p.checkSubnet s master = .ok () ↔
      ∃ own, readSubnet p.vnetSubnetID s.patterns = .ok own ∧ own.sameNetwork master = true := by
  unfold checkSubnet
  simp only [bind_eq_ok, refuse_eq_ok, Bool.not_eq_eq_eq_not, Bool.not_false]

theorem Master.checkAddresses_eq_ok {m : Master} :
    m.checkAddresses = .ok () ↔
      (∃ a, Address.read? m.firstConsecutiveStaticIP = some a) ∧
        (m.vnetCidr = "" ∨ ∃ n, Network.read? m.vnetCidr = some n) := by
  unfold checkAddresses
  rw [then_eq_ok, refuse_eq_ok, refuse_eq_ok]
  cases Address.read? m.firstConsecutiveStaticIP <;> cases Network.read? m.vnetCidr <;> simp

theorem Pool.isCustomVnet_eq_true {p : Pool} : p.isCustomVnet = true ↔ p.vnetSubnetID ≠ "" := by
  simp [isCustomVnet]

theorem Master.isCustomVnet_eq_true {m : Master} : m.isCustomVnet = true ↔ m.vnetSubnetID ≠ "" := by
  simp [isCustomVnet]

/-! ## One network for all nodes -/

namespace Plan

/-- The paths of the subnets of all nodes, empty where a node has none of its own. -/
def subnetIDs (p : Plan) : List String :=
  p.master.vnetSubnetID :: p.pools.map Pool.vnetSubnetID

/-- All nodes have subnets, any two of them in the same network, and the addresses that go with
subnets can be read. -/
structure JoinsOneNetwork (s : Settings) (p : Plan) : Prop where
  given : ∀ id ∈ p.subnetIDs, id ≠ ""
  readable : ∀ id ∈ p.subnetIDs, ∃ path, readSubnet id s.patterns = .ok path
  same : ∀ id ∈ p.subnetIDs, ∀ id' ∈ p.subnetIDs, ∀ path path',
    readSubnet id s.patterns = .ok path → readSubnet id' s.patterns = .ok path' →
      path.subscription = path'.subscription ∧ path.group = path'.group ∧
        path.network = path'.network
  firstAddress : ∃ a, Address.read? p.master.firstConsecutiveStaticIP = some a
  network : p.master.vnetCidr = "" ∨ ∃ n, Network.read? p.master.vnetCidr = some n

variable {s : Settings} {p : Plan}

/-- The rule for plans with master nodes in a subnet of one's own. -/
theorem joinsOneNetwork_iff (hmaster : p.master.isCustomVnet = true) :
    p.JoinsOneNetwork s ↔
      (∀ pool ∈ p.pools, pool.isCustomVnet = true) ∧
        ∃ master, readSubnet p.master.vnetSubnetID s.patterns = .ok master ∧
          (∀ pool ∈ p.pools, pool.checkSubnet s master = .ok ()) ∧
          p.master.checkAddresses = .ok () := by
  simp only [Master.checkAddresses_eq_ok, Pool.checkSubnet_eq_ok, Pool.isCustomVnet_eq_true,
    SubnetPath.sameNetwork_eq_true]
  have hmem : ∀ pool ∈ p.pools, pool.vnetSubnetID ∈ p.subnetIDs := fun pool hpool =>
    List.mem_cons_of_mem _ (List.mem_map_of_mem hpool)
  constructor
  · intro h
    obtain ⟨master, hread⟩ := h.readable _ List.mem_cons_self
    refine ⟨fun pool hpool => h.given _ (hmem pool hpool), master, hread, ?_, h.firstAddress,
      h.network⟩
    intro pool hpool
    obtain ⟨own, hown⟩ := h.readable _ (hmem pool hpool)
    exact ⟨own, hown, h.same _ (hmem pool hpool) _ List.mem_cons_self own master hown hread⟩
  · rintro ⟨hgiven, master, hread, hpools, hfirst, hnetwork⟩
    have hall : ∀ id ∈ p.subnetIDs, ∃ path, readSubnet id s.patterns = .ok path ∧
        path.subscription = master.subscription ∧ path.group = master.group ∧
          path.network = master.network := by
      rintro id (_ | ⟨_, hid⟩)
      · exact ⟨master, hread, rfl, rfl, rfl⟩
      · obtain ⟨pool, hpool, rfl⟩ := List.mem_map.1 hid
        exact hpools pool hpool
    refine ⟨?_, ?_, ?_, hfirst, hnetwork⟩
    · rintro id (_ | ⟨_, hid⟩)
      · exact Master.isCustomVnet_eq_true.1 hmaster
      · obtain ⟨pool, hpool, rfl⟩ := List.mem_map.1 hid
        exact hgiven pool hpool
    · intro id hid
      obtain ⟨path, hpath, -⟩ := hall id hid
      exact ⟨path, hpath⟩
    · -- both agree with the master nodes, so they agree with each other
      intro id hid id' hid' path path' hpath hpath'
      obtain ⟨_, hown, hsub, hgroup, hnet⟩ := hall id hid
      obtain ⟨_, hown', hsub', hgroup', hnet'⟩ := hall id' hid'
      cases hpath.symm.trans hown
      cases hpath'.symm.trans hown'
      exact ⟨hsub.trans hsub'.symm, hgroup.trans hgroup'.symm, hnet.trans hnet'.symm⟩

/-- The pools are of the kind of the master nodes iff all nodes are of one kind. -/
theorem forall_isCustomVnet_eq_iff :
    (∀ pool ∈ p.pools, pool.isCustomVnet = p.master.isCustomVnet) ↔
      (∀ id ∈ p.subnetIDs, id = "") ∨ ∀ id ∈ p.subnetIDs, id ≠ "" := by
  simp only [subnetIDs, List.forall_mem_cons, List.forall_mem_map]
  by_cases hmaster : p.master.vnetSubnetID = ""
  · have hkind : p.master.isCustomVnet = false := by simp [Master.isCustomVnet, hmaster]
    simp [hkind, hmaster, Pool.isCustomVnet]
  · have hkind : p.master.isCustomVnet = true := Master.isCustomVnet_eq_true.2 hmaster
    simp [hkind, hmaster, Pool.isCustomVnet_eq_true]

/-- Nodes of both kinds are told first. -/
theorem checkSubnets_of_mixed
    (h : ¬ ∀ pool ∈ p.pools, pool.isCustomVnet = p.master.isCustomVnet) :
    p.checkSubnets s = .error (.conflict .mixedSubnets) := by
  have hany : (p.pools.any fun pool => pool.isCustomVnet != p.master.isCustomVnet) = true := by
    simpa using h
  rw [checkSubnets, hany]
  rfl

/-- A fault of the rule can be stated, or the pattern does not make four parts of a path. -/
def SubnetFault (s : Settings) (p : Plan) (fault : Fault) : Prop :=
  fault.kind = .malformed ∨ fault.kind = .conflict ∨
    (fault = .subnetParts ∧ ∃ id ∈ p.subnetIDs, MakesOtherParts s.patterns id)

/-- Every fault of the rule is one of a value or of values together, but for the one of a path that
has other than four parts. -/
theorem checkSubnets_meets : Meets (p.SubnetFault s) (fun _ => True) (p.checkSubnets s) := by
  have hread : ∀ id ∈ p.subnetIDs,
      Meets (p.SubnetFault s) (fun _ => True) (readSubnet id s.patterns) := by
    intro id hid
    refine (readSubnet_meets id).mono ?_ fun _ h => h
    rintro fault (rfl | ⟨rfl, hparts⟩)
    · exact .inl rfl
    · exact .inr (.inr ⟨rfl, id, hid, hparts⟩)
  unfold checkSubnets
  refine Meets.bind (.refuse (.inr (.inl rfl))) fun _ _ => .checkWhen ?_
  refine Meets.bind (hread _ List.mem_cons_self) fun master _ => ?_
  refine Meets.bind (.checkEach fun pool hpool => ?_) fun _ _ => ?_
  · have hid : pool.vnetSubnetID ∈ p.subnetIDs :=
      List.mem_cons_of_mem _ (List.mem_map_of_mem hpool)
    exact Meets.bind (hread _ hid) fun _ _ => .refuse (.inr (.inl rfl))
  · exact Meets.bind (.refuse (.inl rfl)) fun _ _ => .refuse (.inl rfl)

/-- **One network or none.** The rule for subnets holds iff no node has a subnet of its own, or all
have and they join one network. A broken rule is told as a wrong value or a conflict, unless the
pattern for paths makes other than four parts of one of them, and as a mixture if some nodes have
subnets of their own and some have not, whatever their paths are. -/
theorem checkSubnets_iff (s : Settings) (p : Plan) :
    (p.checkSubnets s = .ok () ↔ (∀ id ∈ p.subnetIDs, id = "") ∨ p.JoinsOneNetwork s) ∧
    (∀ fault, p.checkSubnets s = .error fault →
      fault.kind = .malformed ∨ fault.kind = .conflict ∨
        (fault = .subnetParts ∧ ∃ id ∈ p.subnetIDs, MakesOtherParts s.patterns id)) ∧
    ((∃ id ∈ p.subnetIDs, id = "") → (∃ id ∈ p.subnetIDs, id ≠ "") →
      p.checkSubnets s = .error (.conflict .mixedSubnets)) := by
  refine ⟨?_, fun fault h => checkSubnets_meets.of_error h, ?_⟩
  · rw [checkSubnets_eq_ok]
    cases hmaster : p.master.isCustomVnet with
    | true =>
      have hsome : ¬ ∀ id ∈ p.subnetIDs, id = "" := fun h =>
        Master.isCustomVnet_eq_true.1 hmaster (h _ List.mem_cons_self)
      rw [or_iff_right hsome, joinsOneNetwork_iff hmaster]
      simp only [forall_const]
    | false =>
      have hnone : p.master.vnetSubnetID = "" := by simpa [Master.isCustomVnet] using hmaster
      have hnever : ¬ p.JoinsOneNetwork s := fun h => h.given _ List.mem_cons_self hnone
      have hkinds := p.forall_isCustomVnet_eq_iff
      have hsome : ¬ ∀ id ∈ p.subnetIDs, id ≠ "" := fun h => h _ List.mem_cons_self hnone
      rw [or_iff_left hsome, hmaster] at hkinds
      rw [or_iff_left hnever, ← hkinds]
      simp
  · rintro ⟨id, hid, hempty⟩ ⟨id', hid', hgiven⟩
    apply checkSubnets_of_mixed
    rw [forall_isCustomVnet_eq_iff]
    rintro (hnone | hall)
    · exact hgiven (hnone id' hid')
    · exact hall id hid hempty

/-- A cluster whose pools have a subnet that is no path, and whose master nodes have none. -/
def halfJoined : Plan where
  orchestration := ⟨"Kubernetes", "", "", none, none, none⟩
  master := ⟨1, "masterdns1", "Standard_D2_v2", 0, "", "", "10.239.255.5", "", none⟩
  pools := [⟨"workers", 1, "Standard_D2_v2", 0, "", "", [], "AvailabilitySet", "", [], "abc", none,
    "", .empty⟩]
  linux := ⟨"azureuser", ⟨[⟨"ssh-rsa AAAA"⟩]⟩, []⟩
  windows := none
  servicePrincipal := some ⟨"client", "secret", "", none⟩
  directory := none
  account := none
  extensions := []

/-- It is the mixture that is told, and not the path. -/
theorem checkSubnets_halfJoined :
    (∃ id ∈ halfJoined.subnetIDs, id = "") ∧ (∃ id ∈ halfJoined.subnetIDs, id ≠ "") ∧
      halfJoined.checkSubnets .standard = .error (.conflict .mixedSubnets) := by
  have hnone : ∃ id ∈ halfJoined.subnetIDs, id = "" := ⟨"", by decide, rfl⟩
  have hsome : ∃ id ∈ halfJoined.subnetIDs, id ≠ "" := ⟨"abc", by decide, by decide⟩
  exact ⟨hnone, hsome, (checkSubnets_iff .standard halfJoined).2.2 hnone hsome⟩

/-- Settings whose pattern for subnets is one word in three parts. -/
def threeParts : Settings where
  toDraft := { Draft.standard with
    patterns := { Patterns.standard with
      subnetPath := fun path =>
        if path = "abc" then some [some "a", some "b", some "c"] else none } }
  sound := Settings.standard.sound

/-- The same cluster with master nodes in that subnet, too. -/
def joined : Plan :=
  { halfJoined with master := { halfJoined.master with vnetSubnetID := "abc" } }

/-- The rule is broken where the word is the subnet of all nodes, and neither as a wrong value nor
as a conflict. -/
theorem checkSubnets_of_three_parts :
    ∃ fault, joined.checkSubnets threeParts = .error fault ∧
      fault.kind ≠ .malformed ∧ fault.kind ≠ .conflict :=
  ⟨.subnetParts, rfl, by decide, by decide⟩

end Plan

end ClusterPlan
