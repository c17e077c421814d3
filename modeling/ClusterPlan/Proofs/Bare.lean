import ClusterPlan.Proofs.Verdict
import ClusterPlan.Validation

/-!
# Rules that do not look at ports

A bare pool is a pool without its ports, and a bare plan one whose pools are all bare. Two plans
with the same bare plan differ in the ports of their pools at most.

Only three rules look at ports: the ranges of the fields (`Pool.checkFields`), and the rules for
public names and for repeated ports in `Pool.checkPublic`. Every other rule says the same of a plan
and of its bare plan; the lemmas `…_bare` state this rule by rule, and `Plan.checkAfter_bare` and
`Pool.checkWithin_bare_plan` collect them for the rules after the pools and within them.

A rule for a whole plan looks at one property of its pools or another. What such a rule says does
not change when the pools are rewritten in any way that keeps this property; the lemmas `…_mapPools`
are about that.
-/

namespace ClusterPlan

/-! ## Rewritten pools -/

namespace Plan

/-- A plan whose pools are rewritten. -/
def mapPools (f : Pool → Pool) (p : Plan) : Plan := { p with pools := p.pools.map f }

variable {f : Pool → Pool} (p : Plan)

/-- A change of pools that keeps their systems keeps whether there is Windows. -/
theorem hasWindows_mapPools (h : ∀ pool, (f pool).isWindows = pool.isWindows) :
    (p.mapPools f).hasWindows = p.hasWindows := by
  unfold hasWindows mapPools
  rw [List.any_map]
  exact congrArg p.pools.any (funext h)

/-- The rule for the policy looks at the pools for Windows only. -/
theorem checkNetworkPolicy_mapPools (h : ∀ pool, (f pool).isWindows = pool.isWindows) :
    (p.mapPools f).checkNetworkPolicy = p.checkNetworkPolicy := by
  unfold checkNetworkPolicy
  rw [hasWindows_mapPools p h]
  rfl

/-- So does the rule for the container runtime. -/
theorem checkContainerRuntime_mapPools (h : ∀ pool, (f pool).isWindows = pool.isWindows) :
    (p.mapPools f).checkContainerRuntime = p.checkContainerRuntime := by
  unfold checkContainerRuntime
  rw [hasWindows_mapPools p h]
  rfl

/-- The rule for names looks at the names only. -/
theorem checkNames_mapPools (h : ∀ pool, (f pool).name = pool.name) :
    Pool.checkNames (p.mapPools f).pools = Pool.checkNames p.pools := by
  unfold Pool.checkNames mapPools
  rw [List.map_map]
  simp only [Function.comp_def, h]

/-- The rule for subnets looks at the paths of the subnets only. -/
theorem checkSubnets_mapPools (s : Settings)
    (h : ∀ pool, (f pool).vnetSubnetID = pool.vnetSubnetID) :
    (p.mapPools f).checkSubnets s = p.checkSubnets s := by
  unfold checkSubnets mapPools Pool.checkSubnet Pool.isCustomVnet
  simp only [List.any_map, checkEach_map, Function.comp_def, h]

end Plan

/-! ## Bare pools and plans -/

namespace Pool

/-- A pool without its ports. -/
def bare (p : Pool) : Pool := { p with ports := [] }

/-- Ports that are handed out do not show in a bare pool. -/
@[simp] theorem bare_withPorts (ports : List Int) (p : Pool) :
    (p.withPorts ports).bare = p.bare := by
  unfold withPorts
  split <;> rfl

/-- The disks and the image of a pool have nothing to do with its ports. -/
theorem checkEquipment_bare (p : Pool) : p.bare.checkEquipment = p.checkEquipment := rfl

/-- No rule within the plan looks at the pool's own ports. -/
theorem checkWithin_bare (s : Settings) (mode : Mode) (plan : Plan) (p : Pool) :
    p.bare.checkWithin s mode plan = p.checkWithin s mode plan := rfl

end Pool

namespace Plan

/-- A plan whose pools have no ports. -/
def bare (p : Plan) : Plan := { p with pools := p.pools.map Pool.bare }

/-- A bare plan has the same orchestrator. -/
@[simp] theorem orchestration_bare (p : Plan) : p.bare.orchestration = p.orchestration := rfl

/-- The pools of a bare plan are bare. -/
@[simp] theorem pools_bare (p : Plan) : p.bare.pools = p.pools.map Pool.bare := rfl

/-- A bare plan has Windows if the plan has. -/
@[simp] theorem hasWindows_bare (p : Plan) : p.bare.hasWindows = p.hasWindows :=
  p.hasWindows_mapPools fun _ => rfl

/-- A bare plan has availability sets if the plan has. -/
@[simp] theorem hasAvailabilitySets_bare (p : Plan) :
    p.bare.hasAvailabilitySets = p.hasAvailabilitySets := by
  unfold hasAvailabilitySets
  rw [pools_bare, List.any_map]
  rfl

/-! ## Rules before the pools -/

/-- The rule for the policy does not notice ports. -/
theorem checkNetworkPolicy_bare (p : Plan) : p.bare.checkNetworkPolicy = p.checkNetworkPolicy :=
  p.checkNetworkPolicy_mapPools fun _ => rfl

/-- Nor does the rule for the container runtime. -/
theorem checkContainerRuntime_bare (p : Plan) :
    p.bare.checkContainerRuntime = p.checkContainerRuntime :=
  p.checkContainerRuntime_mapPools fun _ => rfl

/-- Nor does the rule for add-ons. -/
theorem checkAddons_bare (p : Plan) : p.bare.checkAddons = p.checkAddons := by
  unfold checkAddons
  rw [hasAvailabilitySets_bare]
  rfl

/-- Nor does the rule for names. -/
theorem checkNames_bare (p : Plan) : Pool.checkNames p.bare.pools = Pool.checkNames p.pools :=
  p.checkNames_mapPools fun _ => rfl

/-! ## Rules after the pools -/

/-- Nor does the rule for subnets. -/
theorem checkSubnets_bare (s : Settings) (p : Plan) : p.bare.checkSubnets s = p.checkSubnets s :=
  p.checkSubnets_mapPools s fun _ => rfl

/-- No rule after the pools looks at ports. -/
theorem checkAfter_bare (s : Settings) (p : Plan) : p.bare.checkAfter s = p.checkAfter s := by
  unfold checkAfter
  rw [checkSubnets_bare]
  rfl

end Plan

/-! ## Rules of a pool within its plan -/

namespace Pool

/-- Nor do the rules for Windows. -/
theorem checkWindows_bare (mode : Mode) (plan : Plan) :
    checkWindows mode plan.bare = checkWindows mode plan := by
  unfold checkWindows
  rw [Plan.hasWindows_bare]
  rfl

/-- Nor does the rule for one way of grouping. -/
theorem checkSameAvailability_bare (plan : Plan) (p : Pool) :
    p.checkSameAvailability plan.bare = p.checkSameAvailability plan := by
  unfold checkSameAvailability
  rw [Plan.pools_bare, List.head?_map, Option.any_map]
  rfl

/-- No rule within the plan looks at the ports of the plan's pools. -/
theorem checkWithin_bare_plan (s : Settings) (mode : Mode) (plan : Plan) (p : Pool) :
    p.checkWithin s mode plan.bare = p.checkWithin s mode plan := by
  unfold checkWithin
  rw [checkSameAvailability_bare, checkWindows_bare]
  rfl

/-- A pool is checked alike within any two plans that differ in ports only. -/
theorem visit_bare_plan (s : Settings) (mode : Mode) (plan : Plan) (p : Pool) :
    p.visit s mode plan.bare = p.visit s mode plan := by
  unfold visit
  rw [checkWithin_bare_plan]
  rfl

end Pool

end ClusterPlan
