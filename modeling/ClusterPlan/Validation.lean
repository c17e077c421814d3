import ClusterPlan.Rules.Field
import ClusterPlan.Rules.Machine
import ClusterPlan.Rules.Orchestration
import ClusterPlan.Rules.Subnet

/-!
# Validation of a plan

All rules in their order; the first one that is broken decides. The rules come in three groups:
those before the pools, those of the pools one after the other, and those after the pools.

Validation has one effect: pools get the default ports on the way. So `Plan.validate` answers with
the plan as it is afterwards, whether the rules hold or not. A pool that breaks a rule may already
have got its ports, and the pools after it have not.
-/

namespace ClusterPlan

namespace Plan

/-- OpenShift stores the disks of its master nodes in one way only. -/
def checkMasterStorage (p : Plan) : Verdict :=
  refuse (p.orchestration.runs .openShift && p.master.storageProfile != Pool.managedDisks)
    (.conflict .openShiftStorage)

/-- The rules before the pools. -/
def checkBefore (s : Settings) (mode : Mode) (p : Plan) : Verdict := do
  p.checkFields
  p.orchestration.check s mode
  p.checkNetworkPlugin
  p.checkNetworkPolicy
  p.checkNetworkPair
  p.checkContainerRuntime
  p.checkAddons
  p.master.check p.orchestration s.patterns
  Pool.checkNames p.pools
  p.checkMasterStorage

/-- The rules after the pools. -/
def checkAfter (s : Settings) (p : Plan) : Verdict := do
  p.linux.check
  p.checkSubnets s
  p.checkServicePrincipal s
  p.checkDirectory
  p.checkAccount
  p.checkExtensions s
  p.checkWindowsImage

end Plan

namespace Pool

/-- A pool by itself: as it is after its rules have been checked, and what came of them. -/
def settle (s : Settings) (orchestrator : String) (p : Pool) : Pool × Verdict :=
  match p.checkPublic s orchestrator with
  | .error fault => (p, .error fault)
  | .ok () => (p.withPorts s.defaultPorts, p.checkEquipment)

/-- A pool within a plan. -/
def visit (s : Settings) (mode : Mode) (plan : Plan) (p : Pool) : Pool × Verdict :=
  let (after, verdict) := p.settle s plan.orchestration.type
  (after, do
    verdict
    p.checkWithin s mode plan)

/-- The pools of a plan, up to the first one that breaks a rule. -/
def visitAll (s : Settings) (mode : Mode) (plan : Plan) : List Pool → List Pool × Verdict
  | [] => ([], .ok ())
  | p :: ps =>
    match p.visit s mode plan with
    | (after, .error fault) => (after :: ps, .error fault)
    | (after, .ok ()) =>
      let (rest, verdict) := visitAll s mode plan ps
      (after :: rest, verdict)

end Pool

namespace Plan

/-- All rules for a plan: the plan afterwards, and what came of them. -/
def validate (s : Settings) (mode : Mode) (p : Plan) : Plan × Verdict :=
  match p.checkBefore s mode with
  | .error fault => (p, .error fault)
  | .ok () =>
    let (pools, verdict) := Pool.visitAll s mode p p.pools
    let after := { p with pools }
    (after, do
      verdict
      after.checkAfter s)

end Plan

/-! ## Single stages -/

/-- The stages of validation that can be run alone. Three of them are about the pool at a
position: `poolFields` checks its fields, `pool` checks it within the plan, and `poolAlone` by
itself, as a pool of the given orchestrator. -/
inductive Stage where
  | fields
  | orchestration
  | networkPlugin
  | networkPolicy
  | networkPair
  | containerRuntime
  | addons
  | master
  | poolNames
  | poolFields (position : Nat)
  | pool (position : Nat)
  | poolAlone (position : Nat) (orchestrator : String)
  | linux
  | subnets
  | servicePrincipal
  | directory
  | account
  | extensions
  | windowsImage
  | all
  deriving DecidableEq, Repr

namespace Plan

/-- A stage of the pool at a position, if there is one: the plan with that pool as it is
afterwards, and what came of the stage. -/
def runAt (position : Nat) (stage : Pool → Pool × Verdict) (p : Plan) : Plan × Verdict :=
  match p.pools[position]? with
  | none => (p, .ok ())
  | some pool =>
    let (after, verdict) := stage pool
    ({ p with pools := p.pools.set position after }, verdict)

/-- A stage of validation: the plan afterwards, and what came of the stage. -/
def run (s : Settings) (mode : Mode) (p : Plan) : Stage → Plan × Verdict
  | .fields => (p, p.checkFields)
  | .orchestration => (p, p.orchestration.check s mode)
  | .networkPlugin => (p, p.checkNetworkPlugin)
  | .networkPolicy => (p, p.checkNetworkPolicy)
  | .networkPair => (p, p.checkNetworkPair)
  | .containerRuntime => (p, p.checkContainerRuntime)
  | .addons => (p, p.checkAddons)
  | .master => (p, p.master.check p.orchestration s.patterns)
  | .poolNames => (p, Pool.checkNames p.pools)
  | .poolFields position => p.runAt position fun pool => (pool, pool.checkFields position)
  | .pool position => p.runAt position (Pool.visit s mode p)
  | .poolAlone position orchestrator => p.runAt position (Pool.settle s orchestrator)
  | .linux => (p, p.linux.check)
  | .subnets => (p, p.checkSubnets s)
  | .servicePrincipal => (p, p.checkServicePrincipal s)
  | .directory => (p, p.checkDirectory)
  | .account => (p, p.checkAccount)
  | .extensions => (p, p.checkExtensions s)
  | .windowsImage => (p, p.checkWindowsImage)
  | .all => p.validate s mode

end Plan

end ClusterPlan
