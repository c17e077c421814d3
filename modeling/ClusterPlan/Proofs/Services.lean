import ClusterPlan.Proofs.Address
import ClusterPlan.Proofs.Outcome
import ClusterPlan.Proofs.Verdict
import ClusterPlan.Rules.Kubernetes

/-!
# The address of the name service

A network reserves its first two addresses and its last one, and the addresses between them are free
for the name service (`Network.IsInside`). The rule asks for a member that is not equal to one of
the three. Equality includes the zone, so a reserved address in another zone passes as well
(`Network.Passes`); where nothing has a zone there is no such difference
(`Network.passes_iff_isInside`).

The second address is found by counting on from the first one, which no address follows if it is
the last one of all. Then the network has only this address, and the rule comes to the second one
only for the same address in a zone of its own (`Network.IsAtEnd`).

`Kubernetes.checkServices_interval` collects this for the rule as a whole, from the two texts on.
-/

namespace ClusterPlan

namespace Network

/-! ## Reserved addresses -/

/-- An address is strictly between the second address of a network and the last one. -/
structure IsInside (n : Network) (a : Address) : Prop where
  family : a.family = n.family
  low : n.first.toNat + 1 < a.toNat
  high : a.toNat < n.last.toNat

/-- An address belongs to a network and is none of its reserved addresses, which it may share the
number with if it has another zone. -/
structure Passes (n : Network) (a : Address) : Prop where
  family : a.family = n.family
  low : n.first.toNat ≤ a.toNat
  high : a.toNat ≤ n.last.toNat
  notLast : a.toNat = n.last.toNat → a.zone ≠ none
  notFirst : a.toNat = n.first.toNat → a.zone ≠ n.first.zone
  notSecond : a.toNat = n.first.toNat + 1 → a.zone ≠ none
  hasSecond : n.first.toNat + 1 < 2 ^ n.family.width

/-- A network begins with the last address of all, and an address is that one in a zone that neither
end of the network has. -/
structure IsAtEnd (n : Network) (a : Address) : Prop where
  family : a.family = n.family
  first : n.first.toNat + 1 = 2 ^ n.family.width
  same : a.toNat = n.first.toNat
  notLast : a.zone ≠ none
  notFirst : a.zone ≠ n.first.zone

variable {n : Network} {a : Address}

/-- An address inside a network passes in whatever zone. -/
theorem IsInside.passes (h : n.IsInside a) : n.Passes a := by
  have hend : a.toNat < 2 ^ n.family.width := h.family ▸ a.toNat_lt
  obtain ⟨hfamily, hlow, hhigh⟩ := h
  exact {
    family := hfamily
    low := by omega
    high := by omega
    notLast := fun heq => by omega
    notFirst := fun heq => by omega
    notSecond := fun heq => by omega
    hasSecond := by omega }

/-- Where nothing has a zone, only the addresses inside a network pass. -/
theorem passes_iff_isInside (ha : a.zone = none) (hn : n.first.zone = none) :
    n.Passes a ↔ n.IsInside a := by
  refine ⟨fun h => ⟨h.family, ?_, ?_⟩, IsInside.passes⟩
  · have hfirst : a.toNat ≠ n.first.toNat := fun heq => h.notFirst heq (ha.trans hn.symm)
    have hsecond : a.toNat ≠ n.first.toNat + 1 := fun heq => h.notSecond heq ha
    have hlow := h.low
    omega
  · have hlast : a.toNat ≠ n.last.toNat := fun heq => h.notLast heq ha
    have hhigh := h.high
    omega

end Network

namespace Kubernetes

/-! ## The steps of the rule -/

section steps

variable {address network : String} {a : Address} {n : Network}

/-- What the rule asks for, step by step. -/
theorem checkServiceAddress_eq_ok :
    checkServiceAddress address network a n = .ok () ↔
      n.contains a = true ∧ a ≠ n.last ∧ a ≠ n.first ∧
        ∃ second, n.first.next? = some second ∧ a ≠ second := by
  simp only [checkServiceAddress, then_eq_ok, refuse_eq_ok, Bool.not_eq_eq_eq_not, Bool.not_false,
    beq_eq_false_iff_ne]
  cases hnext : n.first.next? with
  | none => simp
  | some second => simp [refuse_eq_ok]

/-- The rule counts on from the first address only if the steps before hold. -/
theorem checkServiceAddress_eq_pastLast :
    checkServiceAddress address network a n = .error .pastLastAddress ↔
      n.contains a = true ∧ a ≠ n.last ∧ a ≠ n.first ∧ n.first.next? = none := by
  have hne : ∀ cause, Fault.conflict cause ≠ .pastLastAddress := nofun
  simp only [checkServiceAddress, then_eq_error (refuse_ne_error (hne _)), refuse_eq_ok,
    Bool.not_eq_eq_eq_not, Bool.not_false, beq_eq_false_iff_ne]
  cases hnext : n.first.next? with
  | none => simp
  | some second => simp [refuse_ne_error (hne _)]

/-- Every other fault is one of the address and the network together. -/
theorem checkServiceAddress_meets :
    Meets (fun fault => fault.kind = .conflict ∨ fault = .pastLastAddress) (fun _ => True)
      (checkServiceAddress address network a n) := by
  have hrefuse : ∀ {broken : Bool} {fault : Fault}, fault.kind = .conflict →
      Meets (fun fault => fault.kind = .conflict ∨ fault = .pastLastAddress) (fun _ => True)
        (refuse broken fault) := by
    intro broken fault hkind
    cases broken with
    | false => exact trivial
    | true => exact .inl hkind
  unfold checkServiceAddress
  refine Meets.bind (hrefuse rfl) fun _ _ => ?_
  refine Meets.bind (hrefuse rfl) fun _ _ => ?_
  refine Meets.bind (hrefuse rfl) fun _ _ => ?_
  cases n.first.next? with
  | none => exact .inr rfl
  | some second => exact hrefuse rfl

/-! ## Intervals -/

variable (h : n.IsAligned)
include h

/-- The rule in terms of numbers and zones. -/
theorem checkServiceAddress_passes :
    checkServiceAddress address network a n = .ok () ↔ n.Passes a := by
  rw [checkServiceAddress_eq_ok, Network.contains_iff h]
  constructor
  · rintro ⟨⟨hfamily, hlow, hhigh⟩, hlast, hfirst, second, hnext, hsecond⟩
    obtain ⟨hsecondFamily, hsecondNat, hsecondZone⟩ := Address.of_next?_eq_some hnext
    have hend := second.toNat_lt
    rw [Network.family_first] at hsecondFamily
    rw [hsecondFamily, hsecondNat] at hend
    refine ⟨hfamily, hlow, hhigh, ?_, ?_, ?_, hend⟩
    · intro heq hzone
      exact hlast (Address.eq_iff.2 ⟨by simpa using hfamily, heq, by simpa using hzone⟩)
    · intro heq hzone
      exact hfirst (Address.eq_iff.2 ⟨by simpa using hfamily, heq, hzone⟩)
    · intro heq hzone
      exact hsecond (Address.eq_iff.2
        ⟨hfamily.trans hsecondFamily.symm, heq.trans hsecondNat.symm, hzone.trans hsecondZone.symm⟩)
  · intro hpasses
    have hnext : n.first.next? ≠ none := by
      intro hnone
      rw [Address.next?_eq_none, Network.family_first] at hnone
      exact absurd hpasses.hasSecond (by omega)
    obtain ⟨second, hnext⟩ := Option.ne_none_iff_exists'.1 hnext
    obtain ⟨hsecondFamily, hsecondNat, hsecondZone⟩ := Address.of_next?_eq_some hnext
    refine ⟨⟨hpasses.family, hpasses.low, hpasses.high⟩, ?_, ?_, second, hnext, ?_⟩
    · rintro rfl
      exact hpasses.notLast rfl n.zone_last
    · rintro rfl
      exact hpasses.notFirst rfl rfl
    · rintro rfl
      exact hpasses.notSecond hsecondNat hsecondZone

/-- The rule counts past the last address of all only at the end of all addresses. -/
theorem checkServiceAddress_isAtEnd :
    checkServiceAddress address network a n = .error .pastLastAddress ↔ n.IsAtEnd a := by
  rw [checkServiceAddress_eq_pastLast, Network.contains_iff h, Address.next?_eq_none,
    Network.family_first]
  have hlastLt := n.last.toNat_lt
  rw [Network.family_last] at hlastLt
  have hfirstLe : n.first.toNat ≤ n.last.toNat := by
    rw [Network.toNat_last h]
    exact Nat.le_add_right _ _
  constructor
  · rintro ⟨⟨hfamily, hlow, hhigh⟩, hlast, hfirst, hend⟩
    have hsame : a.toNat = n.first.toNat := by omega
    refine ⟨hfamily, hend, hsame, ?_, ?_⟩
    · intro hzone
      have hnat : a.toNat = n.last.toNat := by omega
      exact hlast (Address.eq_iff.2 ⟨by simpa using hfamily, hnat, by simpa using hzone⟩)
    · intro hzone
      exact hfirst (Address.eq_iff.2 ⟨by simpa using hfamily, hsame, hzone⟩)
  · intro hatEnd
    have hfirst := hatEnd.first
    have hsame := hatEnd.same
    refine ⟨⟨hatEnd.family, by omega, by omega⟩, ?_, ?_, hfirst⟩
    · rintro rfl
      exact hatEnd.notLast n.zone_last
    · rintro rfl
      exact hatEnd.notFirst rfl

end steps

/-! ## The rule as a whole -/

/-- The name service has an address, the services have a network, and the two are related. -/
def Serves (k : Kubernetes) (related : Network → Address → Prop) : Prop :=
  ∃ a n, Address.read? k.dnsServiceIP = some a ∧ Network.read? k.serviceCidr = some n ∧ related n a

variable {k : Kubernetes}

theorem serves_iff {a : Address} {n : Network} (ha : Address.read? k.dnsServiceIP = some a)
    (hn : Network.read? k.serviceCidr = some n) {related : Network → Address → Prop} :
    k.Serves related ↔ related n a := by
  constructor
  · rintro ⟨a', n', ha', hn', hrelated⟩
    cases ha.symm.trans ha'
    cases hn.symm.trans hn'
    exact hrelated
  · exact fun hrelated => ⟨a, n, ha, hn, hrelated⟩

section texts

variable (haddress : k.dnsServiceIP ≠ "") (hnetwork : k.serviceCidr ≠ "")
include haddress hnetwork

/-- If both texts are given, they are read first. -/
theorem checkServices_cases :
    (∃ a n, Address.read? k.dnsServiceIP = some a ∧ Network.read? k.serviceCidr = some n ∧
      k.checkServices = checkServiceAddress k.dnsServiceIP k.serviceCidr a n) ∨
    (∀ related, ¬ k.Serves related) ∧
      ∃ fault, k.checkServices = .error fault ∧ fault.kind = .malformed := by
  have haddress' : k.dnsServiceIP.isEmpty = false := by simpa using haddress
  have hnetwork' : k.serviceCidr.isEmpty = false := by simpa using hnetwork
  simp only [checkServices, haddress', hnetwork', Bool.false_and, Bool.false_eq_true, if_false]
  cases ha : Address.read? k.dnsServiceIP with
  | none =>
    refine .inr ⟨?_, _, rfl, rfl⟩
    rintro related ⟨a, n, ha', -⟩
    cases ha.symm.trans ha'
  | some a =>
    cases hn : Network.read? k.serviceCidr with
    | none =>
      refine .inr ⟨?_, _, rfl, rfl⟩
      rintro related ⟨a, n, -, hn', -⟩
      cases hn.symm.trans hn'
    | some n => exact .inl ⟨a, n, rfl, rfl, rfl⟩

/-- **The interval of the name service.** If both texts are given, the rule holds iff they can be
read and the address passes. It passes if it is inside the network, and without zones only then. All
faults have a diagnostic, save for the one at the end of all addresses. -/
theorem checkServices_interval :
    (k.checkServices = .ok () ↔ k.Serves Network.Passes) ∧
    (k.Serves Network.IsInside → k.checkServices = .ok ()) ∧
    ((∀ a n, Address.read? k.dnsServiceIP = some a → Network.read? k.serviceCidr = some n →
        a.zone = none ∧ n.first.zone = none) →
      (k.checkServices = .ok () ↔ k.Serves Network.IsInside)) ∧
    (k.checkServices = .error .pastLastAddress ↔ k.Serves Network.IsAtEnd) ∧
    (∀ fault, k.checkServices = .error fault →
      fault.kind = .malformed ∨ fault.kind = .conflict ∨ fault = .pastLastAddress) := by
  rcases checkServices_cases haddress hnetwork with
    ⟨a, n, ha, hn, hcheck⟩ | ⟨hnever, fault, hfault, hkind⟩
  · have haligned := Network.isAligned_of_read? hn
    rw [hcheck, serves_iff ha hn, serves_iff ha hn, serves_iff ha hn,
      checkServiceAddress_passes haligned, checkServiceAddress_isAtEnd haligned]
    refine ⟨Iff.rfl, Network.IsInside.passes, ?_, Iff.rfl, ?_⟩
    · intro hzones
      obtain ⟨hzone, hfirstZone⟩ := hzones a n ha hn
      exact Network.passes_iff_isInside hzone hfirstZone
    · intro fault hfault
      exact .inr (checkServiceAddress_meets.of_error hfault)
  · rw [hfault]
    refine ⟨iff_of_false nofun (hnever _), fun h => absurd h (hnever _), ?_, ?_, ?_⟩
    · exact fun _ => iff_of_false nofun (hnever _)
    · refine iff_of_false ?_ (hnever _)
      rintro ⟨⟩
      cases hkind
    · rintro _ ⟨⟩
      exact .inl hkind

end texts

/-- Settings that say nothing. -/
def unset : Kubernetes :=
  ⟨"", "", "", "", "", 0, "", "", "", false, none, none, none, false, none, none, none, "", "",
    none, "", false, false, [], .empty, .empty⟩

/-- Settings with a name service and nothing else. -/
def serving (dnsServiceIP serviceCidr : String) : Kubernetes :=
  { unset with dnsServiceIP, serviceCidr }

theorem serving_inside :
    (serving "10.0.0.10" "10.0.0.0/16").dnsServiceIP ≠ "" ∧
      (serving "10.0.0.10" "10.0.0.0/16").serviceCidr ≠ "" ∧
      (serving "10.0.0.10" "10.0.0.0/16").Serves Network.IsInside := by
  have haddress : (serving "10.0.0.10" "10.0.0.0/16").dnsServiceIP ≠ "" := by decide
  have hnetwork : (serving "10.0.0.10" "10.0.0.0/16").serviceCidr ≠ "" := by decide
  have hrule : (serving "10.0.0.10" "10.0.0.0/16").checkServices = .ok () := by rfl
  have ha : Address.read? "10.0.0.10" = some (.v4 0x0a00000a#32) := by rfl
  have hn : Network.read? "10.0.0.0/16" = some (.v4 0x0a000000#32 16) := by rfl
  refine ⟨haddress, hnetwork, ((checkServices_interval haddress hnetwork).2.2.1 ?_).1 hrule⟩
  intro a n ha' hn'
  cases ha.symm.trans ha'
  cases hn.symm.trans hn'
  exact ⟨rfl, rfl⟩

/-- The first address of a network passes in a zone. -/
theorem serving_first_in_zone :
    (serving "fd00::%eth0" "fd00::/64").checkServices = .ok () ∧
      ¬ (serving "fd00::%eth0" "fd00::/64").Serves Network.IsInside := by
  have ha : Address.read? "fd00::%eth0" = some (.v6 (0xfd00#128 <<< 112) (some "eth0")) := by rfl
  have hn : Network.read? "fd00::/64" = some (.v6 (0xfd00#128 <<< 112) none 64) := by rfl
  refine ⟨by rfl, ?_⟩
  rw [serves_iff ha hn]
  intro hinside
  exact absurd hinside.low (by decide)

end Kubernetes

end ClusterPlan
