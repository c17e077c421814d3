import ClusterPlan.Proofs.Field
import ClusterPlan.Proofs.Machine
import ClusterPlan.Proofs.Run
import ClusterPlan.Proofs.Settings

/-!
# The footprint of a run

Validation changes a plan in one way: a pool with a public name and no ports gets the default ports
when the loop over the pools comes to it. So a run leaves a footprint of some length `k`, the number
of pools that have been served (`Plan.Served`), and how far it gets depends on where the run ends
(`Plan.EndsAt`): before the pools, at one of them, or after them.

`Plan.validate_footprint` states this for every run, together with what follows for Kubernetes,
whose pools never get ports, and what a run that accepts the plan guarantees of the ports
afterwards.
-/

namespace ClusterPlan

namespace Pool

variable {s : Settings} {p : Pool}

/-- What becomes of the ports of a pool that is served. -/
theorem withPorts_eq (ports : List Int) (p : Pool) :
    p.withPorts ports =
      { p with ports := if p.dnsPrefix ≠ "" ∧ p.ports = [] then ports else p.ports } := by
  unfold withPorts
  by_cases h : p.dnsPrefix ≠ "" ∧ p.ports = []
  · simp [h]
  · rw [if_neg h, if_neg (by simpa using h)]

/-- A pool without a public name keeps its ports. -/
theorem withPorts_of_dnsPrefix (h : p.dnsPrefix = "") (ports : List Int) :
    p.withPorts ports = p := by
  rw [withPorts_eq, if_neg (fun hc => hc.1 h)]

/-- Kubernetes hands out no ports. -/
theorem settle_fst_kubernetes (s : Settings) (p : Pool) :
    (p.settle s Orchestrator.kubernetes.name).1 = p := by
  rcases settle_cases s Orchestrator.kubernetes.name p with ⟨fault, -, h⟩ | ⟨hpublic, h⟩
  · rw [h]
  · rw [h]
    exact withPorts_of_dnsPrefix ((checkPublic_eq_ok.1 hpublic).2.2.1 rfl).1 _

theorem visitAll_fst_kubernetes {mode : Mode} {plan : Plan}
    (hk : plan.orchestration.runs .kubernetes = true) (ps : List Pool) :
    (visitAll s mode plan ps).1 = ps := by
  induction ps with
  | nil => rfl
  | cons p ps ih =>
    have hp : (p.visit s mode plan).1 = p := by
      rw [visit_fst, Orchestration.runs_eq_true.1 hk, settle_fst_kubernetes]
    cases hv : (p.visit s mode plan).2 with
    | error fault => rw [visitAll_cons_of_error hv, hp]
    | ok => rw [visitAll_cons_of_passes hv, ih, ← visit_fst_of_ok s mode plan p hv, hp]

end Pool

namespace Plan

/-- A plan in which the first `k` pools have been served with ports: those of them that have a
public name and no ports have got the given ones, and nothing else differs. -/
structure Served (ports : List Int) (k : Nat) (before after : Plan) : Prop where
  others : after = { before with pools := after.pools }
  pools_length : after.pools.length = before.pools.length
  pool : ∀ i (hi : i < before.pools.length), after.pools[i]? =
    some { before.pools[i] with
      ports := if i < k ∧ before.pools[i].dnsPrefix ≠ "" ∧ before.pools[i].ports = [] then ports
        else before.pools[i].ports }

/-- Where a run ends, with what verdict, and how many pools it has served by then. -/
inductive EndsAt (s : Settings) (mode : Mode) (p : Plan) : Nat → Verdict → Prop
  /-- A rule before the pools is broken. -/
  | before {fault : Fault} (broken : p.checkBefore s mode = .error fault) :
    EndsAt s mode p 0 (.error fault)
  /-- A rule of the pool at position `j` is broken, the pools before it having passed. -/
  | pool {j k : Nat} {fault : Fault} (hj : j < p.pools.length)
    (held : p.checkBefore s mode = .ok ())
    (passed : ∀ i (hi : i < j), p.pools[i].Passes s mode p)
    (broken : (p.pools[j].visit s mode p).2 = .error fault)
    (served : k = j ∨ k = j + 1) : EndsAt s mode p k (.error fault)
  /-- All pools have passed, and the rules after them decide. -/
  | after (held : p.checkBefore s mode = .ok ())
    (passed : ∀ pool ∈ p.pools, pool.Passes s mode p) :
    EndsAt s mode p p.pools.length (p.checkAfter s)

variable {s : Settings} {mode : Mode} {p : Plan}

theorem served_take (ports : List Int) (k : Nat) (p : Plan) :
    p.Served ports k
      { p with pools := (p.pools.take k).map (Pool.withPorts ports) ++ p.pools.drop k } where
  others := rfl
  pools_length := by simp; omega
  pool i hi := by
    by_cases hk : i < k
    · rw [List.getElem?_append_left (by simp; omega), List.getElem?_map,
        List.getElem?_take_of_lt hk, List.getElem?_eq_getElem hi, Option.map_some,
        Pool.withPorts_eq]
      simp [hk]
    · have hlength : ((p.pools.take k).map (Pool.withPorts ports)).length = k := by
        simp; omega
      rw [List.getElem?_append_right (by omega), hlength, List.getElem?_drop,
        show k + (i - k) = i by omega, List.getElem?_eq_getElem hi]
      simp [hk]

variable (s mode) in
/-- A run that ends at a pool has served it or has not. -/
theorem served_of_stop {before after : List Pool} {pool : Pool}
    (hpools : p.pools = before ++ pool :: after) :
    ∃ k, (k = before.length ∨ k = before.length + 1) ∧
      p.Served s.defaultPorts k
        { p with
          pools := before.map (Pool.withPorts s.defaultPorts) ++
            (pool.visit s mode p).1 :: after } := by
  rw [Pool.visit_fst]
  rcases Pool.settle_fst s p.orchestration.type pool with h | h
  · refine ⟨before.length, .inl rfl, ?_⟩
    have key := served_take s.defaultPorts before.length p
    rw [hpools, List.take_left, List.drop_left] at key
    rwa [h]
  · refine ⟨before.length + 1, .inr rfl, ?_⟩
    have key := served_take s.defaultPorts (before.length + 1) p
    have hsplit : p.pools = (before ++ [pool]) ++ after := by rw [hpools]; simp
    have hlength : before.length + 1 = (before ++ [pool]).length := by simp
    rw [hsplit, hlength, List.take_left, List.drop_left] at key
    rw [h]
    simpa using key

/-- Every run ends somewhere, and has served the pools up to there. -/
theorem exists_served_endsAt (s : Settings) (mode : Mode) (p : Plan) :
    ∃ k, p.Served s.defaultPorts k (p.validate s mode).1 ∧
      p.EndsAt s mode k (p.validate s mode).2 := by
  rcases validate_cases s mode p with ⟨fault, hbroken, h⟩ |
    ⟨hheld, before, pool, after, fault, hpools, hpassed, hbroken, h⟩ | ⟨hheld, hpassed, h⟩
  · refine ⟨0, ?_, ?_⟩
    · rw [h]
      simpa using served_take s.defaultPorts 0 p
    · rw [h]
      exact .before hbroken
  · obtain ⟨k, hk, hserved⟩ := served_of_stop s mode hpools
    refine ⟨k, by rw [h]; exact hserved, ?_⟩
    have hj : before.length < p.pools.length := by rw [hpools]; simp
    have hat : p.pools[before.length] = pool := by simp [hpools]
    rw [h]
    refine .pool hj hheld (fun i hi => ?_) (by rw [hat]; exact hbroken) hk
    have hi' : p.pools[i] = before[i] := by simp [hpools, List.getElem_append_left hi]
    rw [hi']
    exact hpassed _ (List.getElem_mem hi)
  · refine ⟨p.pools.length, ?_, ?_⟩
    · rw [h]
      simpa using served_take s.defaultPorts p.pools.length p
    · rw [h]
      exact .after hheld hpassed

/-- Validation leaves a Kubernetes plan as it is. -/
theorem validate_fst_kubernetes (s : Settings) (mode : Mode)
    (hk : p.orchestration.runs .kubernetes = true) : (p.validate s mode).1 = p := by
  cases h : p.checkBefore s mode with
  | error fault => rw [validate_of_error s mode p h]
  | ok =>
    rw [validate_of_ok s mode p h, visited, Pool.visitAll_fst_kubernetes hk]

end Plan

/-! ## Ports after a run -/

/-- The ports of a pool that validation has left in order. -/
structure Pool.PortsSettled (p : Pool) : Prop where
  iff_public : p.ports ≠ [] ↔ p.dnsPrefix ≠ ""
  nodup : p.ports.Nodup
  inRange : ∀ port ∈ p.ports, 1 ≤ port ∧ port ≤ 65535

/-- A pool whose own ports are right has its ports settled once it is served. -/
theorem Pool.portsSettled_withPorts {s : Settings} {orchestrator : String} {p : Pool}
    (hfields : p.WellShaped) (hpublic : p.checkPublic s orchestrator = .ok ()) :
    (p.withPorts s.defaultPorts).PortsSettled := by
  obtain ⟨-, -, -, hnone, hsome⟩ := checkPublic_eq_ok.1 hpublic
  by_cases hdns : p.dnsPrefix = ""
  · rw [withPorts_of_dnsPrefix hdns]
    have hports := hnone hdns
    exact ⟨by simp [hports, hdns], by simp [hports], by simp [hports]⟩
  · rw [withPorts_eq]
    by_cases hports : p.ports = []
    · rw [if_pos ⟨hdns, hports⟩]
      have hvalid := s.validPorts
      exact ⟨iff_of_true hvalid.nonempty hdns, hvalid.nodup, hvalid.inRange⟩
    · rw [if_neg fun h => hports h.2]
      exact ⟨iff_of_true hports hdns, (hsome hdns).2, hfields.ports⟩

namespace Plan

variable {s : Settings} {mode : Mode} {p : Plan}

/-- The pools of an accepted plan are well shaped. -/
theorem Accepted.wellShaped (h : p.Accepted s mode) : ∀ pool ∈ p.pools, pool.WellShaped := by
  have hbefore := ((accepted_iff s mode p).1 h).1
  simp only [checkBefore, checkFields, then_eq_ok, Pool.checkAllFields_eq_ok] at hbefore
  exact hbefore.1.2.1

/-- After a run that accepts the plan the ports of all pools are settled. -/
theorem Accepted.portsSettled (h : p.Accepted s mode) :
    ∀ pool ∈ (p.validate s mode).1.pools, pool.PortsSettled := by
  rw [h.validate_fst]
  intro pool hpool
  obtain ⟨original, horiginal, rfl⟩ := List.mem_map.1 hpool
  have hpasses := ((accepted_iff s mode p).1 h).2.1 original horiginal
  exact Pool.portsSettled_withPorts (h.wellShaped original horiginal)
    ((Pool.visit_eq_ok s mode p original).1 hpasses).1

/-- **The footprint of a run.** A run serves the pools up to where it ends and changes nothing
else; it changes nothing at all under Kubernetes; and once the plan is accepted, a pool has ports
iff it has a public name, and its ports are all different and in the range of ports. -/
theorem validate_footprint (s : Settings) (mode : Mode) (p : Plan) :
    (∃ k, p.Served s.defaultPorts k (p.validate s mode).1 ∧
      p.EndsAt s mode k (p.validate s mode).2) ∧
    (p.orchestration.runs .kubernetes = true → (p.validate s mode).1 = p) ∧
    ((p.validate s mode).2 = .ok () →
      ∀ pool ∈ (p.validate s mode).1.pools, (pool.ports ≠ [] ↔ pool.dnsPrefix ≠ "") ∧
        pool.ports.Nodup ∧ ∀ port ∈ pool.ports, 1 ≤ port ∧ port ≤ 65535) := by
  refine ⟨exists_served_endsAt s mode p, validate_fst_kubernetes s mode, ?_⟩
  intro haccepted pool hpool
  have h := Accepted.portsSettled haccepted pool hpool
  exact ⟨h.iff_public, h.nodup, h.inRange⟩

theorem mixed_footprint :
    (mixed.validate .standard .create).2 = .ok () ∧
      ∀ pool ∈ (mixed.validate .standard .create).1.pools,
        (pool.ports ≠ [] ↔ pool.dnsPrefix ≠ "") ∧
          pool.ports.Nodup ∧ ∀ port ∈ pool.ports, 1 ≤ port ∧ port ≤ 65535 :=
  ⟨by rfl, (validate_footprint .standard .create mixed).2.2 (by rfl)⟩

end Plan

end ClusterPlan
