import ClusterPlan.Proofs.Field
import ClusterPlan.Proofs.Machine
import ClusterPlan.Proofs.Run
import ClusterPlan.Proofs.Settings
import Mathlib.Data.List.Forall2

/-!
# Earlier validations do not matter

Validation assigns ports, so a plan that has been validated, in whole or in part, with success or
not, is another plan afterwards. `Plan.call_after_history` states that no later stage notices:
after any history of calls, each with settings of its own, a call says what it says of the
untouched plan.

The invariant is `Plan.Provided`: each pool is as it was, or has got ports that can be handed out
(`ValidPorts`) in place of none. Three rules look at the ports of a pool, and none of them minds
such ports: they are in their range, they are not repeated, and a pool that got them has a public
name, so that Kubernetes refuses the name before it comes to the ports. The settings under which
the ports were assigned play no part.
-/

namespace ClusterPlan

/-! ## Pools -/

namespace Pool

/-- What a pool may have become by earlier validations: the same pool, or, if it needs ports and has
none, the pool with some. -/
inductive Provided (p : Pool) : Pool → Prop
  | same : Provided p p
  | served {ports : List Int} (isPublic : p.dnsPrefix ≠ "") (lacksPorts : p.ports = [])
    (valid : ValidPorts ports) : Provided p { p with ports }

/-- Ports are handed out once. -/
theorem withPorts_withPorts (ports : List Int) (p : Pool) :
    (p.withPorts ports).withPorts ports = p.withPorts ports := by
  unfold withPorts
  by_cases h : (!p.dnsPrefix.isEmpty && p.ports.isEmpty) = true
  · simp only [if_pos h]
    exact ite_self _
  · simp only [if_neg h]

namespace Provided

variable {p q : Pool} (s : Settings)

/-- A pool that has got ports is the same but for them. -/
theorem bare_eq (h : Provided p q) : q.bare = p.bare := by
  cases h <;> rfl

/-- The ports that a pool has got are in their range. -/
theorem checkFields_eq (h : Provided p q) (position : Int) :
    q.checkFields position = p.checkFields position := by
  cases h with
  | same => rfl
  | served _ lacksPorts valid =>
    have hports : ∀ path, checkEach (checkRange · 1 65535 path) p.ports = .ok () := by
      intro path
      rw [lacksPorts]
      rfl
    have hserved : ∀ path, checkEach (checkRange · 1 65535 path) _ = .ok () := fun path =>
      checkEach_eq_ok.2 fun port hport => checkRange_eq_ok.2 (valid.inRange port hport)
    unfold checkFields
    simp only [hports, hserved]

/-- The ports that a pool has got are not repeated, and come with a public name. -/
theorem checkPublic_eq (h : Provided p q) (orchestrator : String) :
    q.checkPublic s orchestrator = p.checkPublic s orchestrator := by
  cases h with
  | same => rfl
  | served isPublic lacksPorts valid =>
    have hserved : checkPorts _ p.name = .ok () := checkPorts_eq_ok.2 valid.nodup
    have hports : checkPorts p.ports p.name = .ok () :=
      checkPorts_eq_ok.2 (by rw [lacksPorts]; exact List.nodup_nil)
    have hdns : p.dnsPrefix.isEmpty = false := by simpa using isPublic
    unfold checkPublic
    simp only [hserved, hports, hdns]
    -- Kubernetes refuses the public name, whatever the ports
    cases orchestrator == Orchestrator.kubernetes.name <;> rfl

/-- A pool stays provided when it gets the default ports of some settings. -/
theorem withPorts (h : Provided p q) : Provided p (q.withPorts s.defaultPorts) := by
  by_cases hneeds : (!q.dnsPrefix.isEmpty && q.ports.isEmpty) = true
  · rw [Pool.withPorts, if_pos hneeds]
    rw [Bool.and_eq_true] at hneeds
    cases h with
    | same => exact .served (by simpa using hneeds.1) (by simpa using hneeds.2) s.validPorts
    | served _ _ valid => exact absurd (List.isEmpty_iff.1 hneeds.2) valid.nonempty
  · rwa [Pool.withPorts, if_neg hneeds]

/-- A pool by itself: its past does not matter, and it stays provided. -/
theorem settle (h : Provided p q) (orchestrator : String) :
    Provided p (q.settle s orchestrator).1 ∧
      (q.settle s orchestrator).2 = (p.settle s orchestrator).2 := by
  have hequipment : q.checkEquipment = p.checkEquipment := by
    rw [← checkEquipment_bare, h.bare_eq, checkEquipment_bare]
  have hpublic := h.checkPublic_eq s orchestrator
  unfold Pool.settle
  rw [hpublic]
  cases p.checkPublic s orchestrator with
  | error fault => exact ⟨h, rfl⟩
  | ok => exact ⟨h.withPorts s, hequipment⟩

variable (mode : Mode) {plan plan' : Plan}

/-- A pool within a plan: neither its own past nor that of the plan's pools matters. -/
theorem visit (h : Provided p q) (hplan : plan'.bare = plan.bare) :
    Provided p (q.visit s mode plan').1 ∧
      (q.visit s mode plan').2 = (p.visit s mode plan).2 := by
  have hwithin : q.checkWithin s mode plan = p.checkWithin s mode plan := by
    rw [← checkWithin_bare, h.bare_eq, checkWithin_bare]
  have hvisit : q.visit s mode plan' = q.visit s mode plan := by
    rw [← visit_bare_plan, hplan, visit_bare_plan]
  rw [hvisit, visit_fst, visit_snd, visit_snd, hwithin]
  obtain ⟨hfst, hsnd⟩ := h.settle s plan.orchestration.type
  exact ⟨hfst, by rw [hsnd]⟩

end Provided

/-! ## Lists of pools -/

variable (s : Settings) (mode : Mode) {plan plan' : Plan} {ps qs : List Pool}

theorem bare_eq_of_provided (h : List.Forall₂ Provided ps qs) : qs.map bare = ps.map bare := by
  induction h with
  | nil => rfl
  | cons hp _ ih => rw [List.map_cons, List.map_cons, hp.bare_eq, ih]

theorem checkAllFields_eq_of_provided (h : List.Forall₂ Provided ps qs) (position : Nat) :
    checkAllFields position qs = checkAllFields position ps := by
  induction h generalizing position with
  | nil => rfl
  | cons hp _ ih => rw [checkAllFields, checkAllFields, hp.checkFields_eq, ih]

/-- The loop over the pools: the past of the pools does not matter, and they stay provided. -/
theorem visitAll_of_provided (h : List.Forall₂ Provided ps qs) (hplan : plan'.bare = plan.bare) :
    List.Forall₂ Provided ps (visitAll s mode plan' qs).1 ∧
      (visitAll s mode plan' qs).2 = (visitAll s mode plan ps).2 := by
  induction h with
  | nil => exact ⟨.nil, rfl⟩
  | @cons p q ps qs hp hps ih =>
    obtain ⟨hfst, hsnd⟩ := hp.visit s mode hplan
    cases hv : (p.visit s mode plan).2 with
    | error fault =>
      rw [hv] at hsnd
      rw [visitAll_cons_of_error hsnd, visitAll_cons_of_error hv]
      exact ⟨.cons hfst hps, rfl⟩
    | ok =>
      rw [hv] at hsnd
      rw [visitAll_cons_of_passes hsnd, visitAll_cons_of_passes hv]
      exact ⟨.cons (hp.withPorts s) ih.1, ih.2⟩

/-- A pool that has been looked at does not change when it is looked at again. -/
theorem settle_settle_fst (orchestrator : String) (p : Pool) :
    ((p.settle s orchestrator).1.settle s orchestrator).1 = (p.settle s orchestrator).1 := by
  rcases settle_cases s orchestrator p with ⟨fault, -, h⟩ | ⟨hpublic, h⟩
  · rw [h]
    exact congrArg Prod.fst h
  · rw [h]
    have hagain : (p.withPorts s.defaultPorts).checkPublic s orchestrator = .ok () := by
      rw [(Provided.same.withPorts s).checkPublic_eq, hpublic]
    rw [settle, hagain]
    exact withPorts_withPorts s.defaultPorts p

theorem visit_visit_fst (hplan : plan'.bare = plan.bare) (p : Pool) :
    ((p.visit s mode plan).1.visit s mode plan').1 = (p.visit s mode plan).1 := by
  have htype : plan'.orchestration = plan.orchestration := by
    rw [← Plan.orchestration_bare, hplan, Plan.orchestration_bare]
  rw [visit_fst, visit_fst, htype, settle_settle_fst]

/-- The loop over the pools changes nothing the second time. -/
theorem visitAll_visitAll_fst (hplan : plan'.bare = plan.bare) (ps : List Pool) :
    (visitAll s mode plan' (visitAll s mode plan ps).1).1 = (visitAll s mode plan ps).1 := by
  induction ps with
  | nil => rfl
  | cons p ps ih =>
    have hp := (Provided.same (p := p)).visit s mode (rfl : plan.bare = plan.bare)
    have hagain := (hp.1.visit s mode hplan).2
    cases hv : (p.visit s mode plan).2 with
    | error fault =>
      rw [hv] at hagain
      rw [visitAll_cons_of_error hv, visitAll_cons_of_error hagain, visit_visit_fst s mode hplan]
    | ok =>
      rw [hv, visit_fst_of_ok s mode plan p hv] at hagain
      rw [visitAll_cons_of_passes hv, visitAll_cons_of_passes hagain, ih, withPorts_withPorts]

theorem Provided.set {p q : Pool} {position : Nat} (h : List.Forall₂ Provided ps qs)
    (hp : ps[position]? = some p) (hq : Provided p q) :
    List.Forall₂ Provided ps (qs.set position q) := by
  induction h generalizing position with
  | nil => exact .nil
  | cons hfirst hrest ih =>
    cases position with
    | zero =>
      obtain rfl := Option.some.inj hp
      exact .cons hq hrest
    | succ position => exact .cons hfirst (ih hp)

end Pool

/-! ## Plans -/

namespace Plan

/-- What a plan may have become by earlier validations. -/
structure Provided (p q : Plan) : Prop where
  others : q = { p with pools := q.pools }
  pools : List.Forall₂ Pool.Provided p.pools q.pools

namespace Provided

variable {p q : Plan} (s : Settings) (mode : Mode)

/-- A plan that has not been validated yet. -/
theorem refl (p : Plan) : Provided p p := ⟨rfl, List.forall₂_same.2 fun _ _ => .same⟩

theorem bare_eq (h : Provided p q) : q.bare = p.bare := by
  rw [h.others]
  unfold bare
  rw [Pool.bare_eq_of_provided h.pools]

/-- A rule that does not look at ports says the same of a provided plan. -/
theorem congr_bare {α : Type} (rule : Plan → α) (hbare : ∀ p, rule p.bare = rule p)
    (h : Provided p q) : rule q = rule p := by
  rw [← hbare, h.bare_eq, hbare]

theorem checkFields_eq (h : Provided p q) : q.checkFields = p.checkFields := by
  rw [h.others]
  unfold checkFields
  rw [Pool.checkAllFields_eq_of_provided h.pools]

/-- The rules before the pools do not notice earlier validations. -/
theorem checkBefore_eq (h : Provided p q) : q.checkBefore s mode = p.checkBefore s mode := by
  unfold checkBefore
  rw [h.checkFields_eq, h.congr_bare _ checkNetworkPolicy_bare,
    h.congr_bare _ checkContainerRuntime_bare, h.congr_bare _ checkAddons_bare,
    h.congr_bare (fun p => Pool.checkNames p.pools) checkNames_bare]
  rw [h.others]
  rfl

/-- Pools that have been provided on the way leave a provided plan. -/
theorem withPools {pools : List Pool} (h : Provided p q)
    (hpools : List.Forall₂ Pool.Provided p.pools pools) :
    Provided p { q with pools } where
  others := by rw [h.others]
  pools := hpools

/-- A whole validation does not notice earlier ones. -/
theorem validate (h : Provided p q) :
    Provided p (q.validate s mode).1 ∧ (q.validate s mode).2 = (p.validate s mode).2 := by
  have hbefore := h.checkBefore_eq s mode
  have hafter := h.congr_bare _ (checkAfter_bare s)
  obtain ⟨hfst, hsnd⟩ := Pool.visitAll_of_provided s mode h.pools h.bare_eq
  cases hp : p.checkBefore s mode with
  | error fault =>
    rw [hp] at hbefore
    rw [validate_of_error s mode q hbefore, validate_of_error s mode p hp]
    exact ⟨h, rfl⟩
  | ok =>
    rw [hp] at hbefore
    rw [validate_of_ok s mode q hbefore, validate_of_ok s mode p hp, hsnd, hafter]
    exact ⟨h.withPools hfst, rfl⟩

/-- A stage of one pool does not notice earlier validations if its pool does not. -/
theorem runAt {position : Nat} {stage stage' : Pool → Pool × Verdict} (h : Provided p q)
    (hstage : ∀ pool pool', Pool.Provided pool pool' →
      Pool.Provided pool (stage' pool').1 ∧ (stage' pool').2 = (stage pool).2) :
    Provided p (q.runAt position stage').1 ∧
      (q.runAt position stage').2 = (p.runAt position stage).2 := by
  have hlength := h.pools.length_eq
  unfold Plan.runAt
  rcases Nat.lt_or_ge position p.pools.length with hlt | hge
  · have hp := List.getElem?_eq_getElem hlt
    have hq := List.getElem?_eq_getElem (hlength ▸ hlt : position < q.pools.length)
    have hpool := h.pools.get hlt (hlength ▸ hlt)
    obtain ⟨hfst, hsnd⟩ := hstage _ _ hpool
    rw [hp, hq]
    exact ⟨h.withPools (Pool.Provided.set h.pools hp hfst), hsnd⟩
  · rw [List.getElem?_eq_none hge, List.getElem?_eq_none (hlength ▸ hge)]
    exact ⟨h, rfl⟩

/-- **One call after earlier ones.** Every stage says of a provided plan what it says of the
untouched one, and leaves it provided. -/
theorem run (h : Provided p q) (s : Settings) (mode : Mode) (stage : Stage) :
    Provided p (q.run s mode stage).1 ∧ (q.run s mode stage).2 = (p.run s mode stage).2 := by
  cases stage with
  | fields => exact ⟨h, h.checkFields_eq⟩
  | networkPolicy => exact ⟨h, h.congr_bare _ checkNetworkPolicy_bare⟩
  | containerRuntime => exact ⟨h, h.congr_bare _ checkContainerRuntime_bare⟩
  | addons => exact ⟨h, h.congr_bare _ checkAddons_bare⟩
  | poolNames => exact ⟨h, h.congr_bare (fun p => Pool.checkNames p.pools) checkNames_bare⟩
  | subnets => exact ⟨h, h.congr_bare _ (checkSubnets_bare s)⟩
  | poolFields position =>
    exact h.runAt fun _ _ hpool => ⟨hpool, hpool.checkFields_eq position⟩
  | pool position => exact h.runAt fun _ _ hpool => hpool.visit s mode h.bare_eq
  | poolAlone position orchestrator => exact h.runAt fun _ _ hpool => hpool.settle s orchestrator
  | all => exact h.validate s mode
  -- the other stages do not look at the pools
  | orchestration | networkPlugin | networkPair | master | linux | servicePrincipal | directory
  | account | extensions | windowsImage =>
    refine ⟨h, ?_⟩
    rw [h.others]
    rfl

end Provided

/-! ## The same call again -/

variable (s : Settings) (mode : Mode) (p : Plan)

theorem runAt_runAt_fst {position : Nat} {stage stage' : Pool → Pool × Verdict}
    (hstage : ∀ pool, (stage' (stage pool).1).1 = (stage pool).1) :
    ((p.runAt position stage).1.runAt position stage').1 = (p.runAt position stage).1 := by
  cases hp : p.pools[position]? with
  | none => simp only [runAt, hp]
  | some pool =>
    have hlt : position < p.pools.length := (List.getElem?_eq_some_iff.1 hp).1
    simp only [runAt, hp, List.getElem?_set_self hlt, hstage, List.set_set]

theorem validate_validate_fst :
    ((p.validate s mode).1.validate s mode).1 = (p.validate s mode).1 := by
  have hprovided := (Provided.refl p).validate s mode
  have hagain := hprovided.1.checkBefore_eq s mode
  cases h : p.checkBefore s mode with
  | error fault =>
    rw [validate_of_error s mode p h]
    exact congrArg Prod.fst (validate_of_error s mode p h)
  | ok =>
    rw [h, validate_of_ok s mode p h] at hagain
    have hpools : (Pool.visitAll s mode (p.visited s mode) (p.visited s mode).pools).1 =
        (p.visited s mode).pools :=
      Pool.visitAll_visitAll_fst s mode (visited_bare s mode p) p.pools
    rw [validate_of_ok s mode p h, validate_of_ok s mode _ hagain]
    show { p.visited s mode with
      pools := (Pool.visitAll s mode (p.visited s mode) (p.visited s mode).pools).1 } = _
    rw [hpools]

theorem run_run_fst (stage : Stage) :
    ((p.run s mode stage).1.run s mode stage).1 = (p.run s mode stage).1 := by
  cases stage with
  | poolFields position => exact p.runAt_runAt_fst fun _ => rfl
  | pool position =>
    have hplan : (p.run s mode (.pool position)).1.bare = p.bare :=
      ((Provided.refl p).run s mode (.pool position)).1.bare_eq
    exact p.runAt_runAt_fst (Pool.visit_visit_fst s mode hplan)
  | poolAlone position orchestrator =>
    exact p.runAt_runAt_fst (Pool.settle_settle_fst s orchestrator)
  | all => exact p.validate_validate_fst s mode
  -- the other stages change nothing the first time
  | _ => rfl

/-! ## Histories -/

/-- One call of validation: a stage, with its own settings. -/
structure Call where
  settings : Settings
  mode : Mode
  stage : Stage

/-- The plan after a call, and what came of the call. -/
def call (p : Plan) (c : Call) : Plan × Verdict := p.run c.settings c.mode c.stage

/-- The plan after a sequence of calls, whatever came of them. -/
def replay (calls : List Call) : Plan := calls.foldl (fun p c => (p.call c).1) p

/-- A plan is provided after any history. -/
theorem provided_replay (calls : List Call) : p.Provided (p.replay calls) := by
  suffices h : ∀ q, p.Provided q → p.Provided (q.replay calls) from h p (.refl p)
  induction calls with
  | nil => exact fun _ h => h
  | cons c calls ih => exact fun q h => ih _ (h.run c.settings c.mode c.stage).1

/-- The second of two equal calls says what the first one says, and changes nothing. -/
theorem call_call (c : Call) : (p.call c).1.call c = p.call c := by
  have hprovided := ((Provided.refl p).run c.settings c.mode c.stage).1
  exact Prod.ext (p.run_run_fst c.settings c.mode c.stage)
    (hprovided.run c.settings c.mode c.stage).2

/-- **History does not matter.** A call after any sequence of earlier ones, each with its own
settings and whatever came of it, says what it says of the untouched plan. In particular the
second of two equal validations says the same and changes nothing. -/
theorem call_after_history (p : Plan) (calls : List Call) (c : Call) :
    ((p.replay calls).call c).2 = (p.call c).2 ∧ (p.call c).1.call c = p.call c ∧
      ∀ s mode, (p.validate s mode).1.validate s mode = p.validate s mode := by
  refine ⟨?_, p.call_call c, fun s mode => p.call_call ⟨s, mode, .all⟩⟩
  exact ((p.provided_replay calls).run c.settings c.mode c.stage).2

/-- Earlier calls give ports to a pool, and a later call says what it says without them. -/
theorem call_after_history_mixed :
    let calls := [⟨.standard, .create, .all⟩, ⟨.standard, .update, .poolAlone 2 "DCOS"⟩]
    let c : Call := ⟨.standard, .create, .all⟩
    mixed.replay calls ≠ mixed ∧ ((mixed.replay calls).call c).2 = (mixed.call c).2 := by
  intro calls c
  exact ⟨by decide +kernel, (call_after_history mixed calls c).1⟩

end Plan

end ClusterPlan
