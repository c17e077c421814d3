import ClusterPlan.Proofs.Bare

/-!
# Runs of validation

What validation does to a plan, loop by loop.

* `Pool.settle_cases`: a pool by itself either breaks a rule for public names and stays as it is, or
  gets the default ports where it needs them and goes on to its disks and its image.
* `Pool.visitAll_cases`: the loop over the pools either passes all of them, or passes some and stops
  at the next one, behind which nothing happens.
* `Plan.validate_cases`: a run ends before the pools, at a pool, or after the pools.
* `Plan.accepted_iff`: a plan is accepted iff the rules before the pools hold, every pool passes,
  and the rules after the pools hold. Ports that are assigned on the way make no difference to the
  last group.
-/

namespace ClusterPlan

/-! ## One pool -/

namespace Pool

variable (s : Settings) (mode : Mode) (plan : Plan) (orchestrator : String) (p : Pool)

/-- A pool by itself: stopped before its ports are assigned, or after that. -/
theorem settle_cases :
    (∃ fault, p.checkPublic s orchestrator = .error fault ∧
      p.settle s orchestrator = (p, .error fault)) ∨
    (p.checkPublic s orchestrator = .ok () ∧
      p.settle s orchestrator = (p.withPorts s.defaultPorts, p.checkEquipment)) := by
  unfold settle
  cases h : p.checkPublic s orchestrator with
  | error fault => exact .inl ⟨fault, rfl, rfl⟩
  | ok => exact .inr ⟨rfl, rfl⟩

/-- A pool that has been looked at is as it was, or has got the default ports. -/
theorem settle_fst :
    (p.settle s orchestrator).1 = p ∨
      (p.settle s orchestrator).1 = p.withPorts s.defaultPorts := by
  rcases settle_cases s orchestrator p with ⟨fault, -, h⟩ | ⟨-, h⟩
  · exact .inl (by rw [h])
  · exact .inr (by rw [h])

theorem visit_fst : (p.visit s mode plan).1 = (p.settle s plan.orchestration.type).1 := rfl

theorem visit_snd :
    (p.visit s mode plan).2 =
      (do (p.settle s plan.orchestration.type).2; p.checkWithin s mode plan) := rfl

/-- A pool passes iff its three groups of rules hold. -/
theorem visit_eq_ok :
    (p.visit s mode plan).2 = .ok () ↔
      p.checkPublic s plan.orchestration.type = .ok () ∧ p.checkEquipment = .ok () ∧
        p.checkWithin s mode plan = .ok () := by
  rw [visit_snd, then_eq_ok]
  rcases settle_cases s plan.orchestration.type p with ⟨fault, hp, h⟩ | ⟨hp, h⟩
  · simp [hp, h]
  · simp [hp, h]

/-- A pool that passes has got the default ports where it needs them. -/
theorem visit_fst_of_ok (h : (p.visit s mode plan).2 = .ok ()) :
    (p.visit s mode plan).1 = p.withPorts s.defaultPorts := by
  have hp := ((visit_eq_ok s mode plan p).1 h).1
  rw [visit_fst, settle, hp]

end Pool

/-! ## The loop over the pools -/

namespace Pool

variable (s : Settings) (mode : Mode) (plan : Plan)

/-- A pool passes within its plan. -/
def Passes (p : Pool) : Prop := (p.visit s mode plan).2 = .ok ()

variable {s mode plan}

theorem visitAll_cons_of_passes {p : Pool} (h : p.Passes s mode plan) (ps : List Pool) :
    visitAll s mode plan (p :: ps) =
      (p.withPorts s.defaultPorts :: (visitAll s mode plan ps).1, (visitAll s mode plan ps).2) := by
  have hv : p.visit s mode plan = (p.withPorts s.defaultPorts, .ok ()) :=
    Prod.ext (visit_fst_of_ok s mode plan p h) h
  rw [visitAll, hv]

theorem visitAll_cons_of_error {p : Pool} {fault : Fault}
    (h : (p.visit s mode plan).2 = .error fault) (ps : List Pool) :
    visitAll s mode plan (p :: ps) = ((p.visit s mode plan).1 :: ps, .error fault) := by
  have hv : p.visit s mode plan = ((p.visit s mode plan).1, .error fault) := Prod.ext rfl h
  rw [visitAll, hv]

/-- Pools that all pass. -/
theorem visitAll_of_passes {ps : List Pool} (h : ∀ p ∈ ps, p.Passes s mode plan) :
    visitAll s mode plan ps = (ps.map (withPorts s.defaultPorts), .ok ()) := by
  induction ps with
  | nil => rfl
  | cons p ps ih =>
    rw [List.forall_mem_cons] at h
    rw [visitAll_cons_of_passes h.1, ih h.2, List.map_cons]

/-- Pools that pass, and one after them that does not. -/
theorem visitAll_of_error {before : List Pool} {p : Pool} {fault : Fault} {after : List Pool}
    (h : ∀ q ∈ before, q.Passes s mode plan) (hp : (p.visit s mode plan).2 = .error fault) :
    visitAll s mode plan (before ++ p :: after) =
      (before.map (withPorts s.defaultPorts) ++ (p.visit s mode plan).1 :: after,
        .error fault) := by
  induction before with
  | nil => exact visitAll_cons_of_error hp after
  | cons q before ih =>
    rw [List.forall_mem_cons] at h
    rw [List.cons_append, visitAll_cons_of_passes h.1, ih h.2, List.map_cons, List.cons_append]

variable (s mode plan) in
/-- Either all pools pass, or there is a first one that does not. -/
theorem visitAll_cases (ps : List Pool) :
    (∀ p ∈ ps, p.Passes s mode plan) ∨
      ∃ before p after fault, ps = before ++ p :: after ∧
        (∀ q ∈ before, q.Passes s mode plan) ∧ (p.visit s mode plan).2 = .error fault := by
  induction ps with
  | nil => exact .inl (by simp)
  | cons p ps ih =>
    cases hp : (p.visit s mode plan).2 with
    | error fault => exact .inr ⟨[], p, ps, fault, rfl, by simp, hp⟩
    | ok =>
      rcases ih with hall | ⟨before, q, after, fault, rfl, hbefore, hq⟩
      · exact .inl (List.forall_mem_cons.2 ⟨hp, hall⟩)
      · exact .inr ⟨p :: before, q, after, fault, rfl, List.forall_mem_cons.2 ⟨hp, hbefore⟩, hq⟩

theorem visitAll_eq_ok {ps : List Pool} :
    (visitAll s mode plan ps).2 = .ok () ↔ ∀ p ∈ ps, p.Passes s mode plan := by
  constructor
  · intro h
    rcases visitAll_cases s mode plan ps with
      hall | ⟨before, q, after, fault, rfl, hbefore, hq⟩
    · exact hall
    · rw [visitAll_of_error hbefore hq] at h
      cases h
  · intro h
    rw [visitAll_of_passes h]

/-- The loop changes nothing about the pools but their ports. -/
theorem visitAll_bare (ps : List Pool) :
    (visitAll s mode plan ps).1.map bare = ps.map bare := by
  induction ps with
  | nil => rfl
  | cons p ps ih =>
    have hp : (p.visit s mode plan).1.bare = p.bare := by
      rw [visit_fst]
      rcases settle_fst s plan.orchestration.type p with h | h <;> simp [h]
    cases hv : (p.visit s mode plan).2 with
    | error fault => rw [visitAll_cons_of_error hv, List.map_cons, List.map_cons, hp]
    | ok =>
      rw [visitAll_cons_of_passes hv, List.map_cons, List.map_cons, ih, bare_withPorts]

end Pool

/-! ## Whole plans -/

namespace Plan

variable (s : Settings) (mode : Mode) (p : Plan)

/-- The plan after the loop over its pools. -/
def visited : Plan := { p with pools := (Pool.visitAll s mode p p.pools).1 }

theorem visited_bare : (p.visited s mode).bare = p.bare := by
  unfold visited bare
  rw [Pool.visitAll_bare]

/-- A run that breaks a rule before the pools changes nothing. -/
theorem validate_of_error {fault : Fault} (h : p.checkBefore s mode = .error fault) :
    p.validate s mode = (p, .error fault) := by
  rw [validate, h]

/-- A run that comes to the pools. -/
theorem validate_of_ok (h : p.checkBefore s mode = .ok ()) :
    p.validate s mode =
      (p.visited s mode, do (Pool.visitAll s mode p p.pools).2; p.checkAfter s) := by
  have hafter : (p.visited s mode).checkAfter s = p.checkAfter s := by
    rw [← checkAfter_bare, visited_bare, checkAfter_bare]
  rw [validate, h]
  show (p.visited s mode, do
    (Pool.visitAll s mode p p.pools).2
    (p.visited s mode).checkAfter s) = _
  rw [hafter]

/-- A run ends before the pools, at one of them, or after them. -/
theorem validate_cases :
    (∃ fault, p.checkBefore s mode = .error fault ∧ p.validate s mode = (p, .error fault)) ∨
    (p.checkBefore s mode = .ok () ∧ ∃ before pool after fault,
      p.pools = before ++ pool :: after ∧ (∀ q ∈ before, q.Passes s mode p) ∧
      (pool.visit s mode p).2 = .error fault ∧
      p.validate s mode =
        ({ p with pools := before.map (Pool.withPorts s.defaultPorts) ++
            (pool.visit s mode p).1 :: after }, .error fault)) ∨
    (p.checkBefore s mode = .ok () ∧ (∀ pool ∈ p.pools, pool.Passes s mode p) ∧
      p.validate s mode =
        ({ p with pools := p.pools.map (Pool.withPorts s.defaultPorts) }, p.checkAfter s)) := by
  cases h : p.checkBefore s mode with
  | error fault => exact .inl ⟨fault, rfl, validate_of_error s mode p h⟩
  | ok =>
    right
    rcases Pool.visitAll_cases s mode p p.pools with
      hall | ⟨before, pool, after, fault, hpools, hbefore, hpool⟩
    · refine .inr ⟨rfl, hall, ?_⟩
      rw [validate_of_ok s mode p h, visited, Pool.visitAll_of_passes hall]
      rfl
    · refine .inl ⟨rfl, before, pool, after, fault, hpools, hbefore, hpool, ?_⟩
      rw [validate_of_ok s mode p h, visited, hpools, Pool.visitAll_of_error hbefore hpool]
      rfl

/-- The plan passes all rules. -/
def Accepted : Prop := (p.validate s mode).2 = .ok ()

/-- A plan is accepted iff its three groups of rules hold. -/
theorem accepted_iff :
    p.Accepted s mode ↔
      p.checkBefore s mode = .ok () ∧ (∀ pool ∈ p.pools, pool.Passes s mode p) ∧
        p.checkAfter s = .ok () := by
  unfold Accepted
  cases h : p.checkBefore s mode with
  | error fault => simp [validate_of_error s mode p h]
  | ok => rw [validate_of_ok s mode p h, then_eq_ok, Pool.visitAll_eq_ok]; simp

variable {s mode p}

/-- In an accepted plan every pool has got the default ports where it needs them. -/
theorem Accepted.validate_fst (h : p.Accepted s mode) :
    (p.validate s mode).1 = { p with pools := p.pools.map (Pool.withPorts s.defaultPorts) } := by
  obtain ⟨hbefore, hpools, -⟩ := (accepted_iff s mode p).1 h
  rw [validate_of_ok s mode p hbefore, visited, Pool.visitAll_of_passes hpools]

/-- A DC/OS cluster with a public pool that lacks ports, one that has a port, and a pool with
Windows. -/
def mixed : Plan where
  orchestration := ⟨"DCOS", "", "", none, none, none⟩
  master := ⟨3, "masterdns1", "Standard_D2_v2", 0, "", "", "", "", none⟩
  pools :=
    [⟨"public", 3, "Standard_D2_v2", 0, "agentdns1", "Linux", [], "", "", [], "", none, "", .empty⟩,
      ⟨"web", 2, "Standard_D2_v2", 0, "agentdns2", "", [443], "", "", [], "", none, "", .empty⟩,
      ⟨"private", 2, "Standard_D2_v2", 0, "", "Windows", [], "", "", [], "", none, "", .empty⟩]
  linux := ⟨"azureuser", ⟨[⟨"ssh-rsa AAAA"⟩]⟩, []⟩
  windows := some ⟨"azureuser", "secret", "", []⟩
  servicePrincipal := none
  directory := none
  account := none
  extensions := []

end Plan

end ClusterPlan
