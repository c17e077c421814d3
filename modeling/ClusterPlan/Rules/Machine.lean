import ClusterPlan.Rules.Access
import ClusterPlan.Rules.Network

/-!
# Machines

The master nodes and the pools of agent nodes. A pool with a public name and no ports gets the
default ports (`Pool.withPorts`); nothing else in a plan ever changes.

The rules of a pool come in three groups: those that hold before the ports are assigned
(`Pool.checkPublic`), those of the pool itself that come after that (`Pool.checkDisks` and its
image), and those that look at the whole plan (`Pool.checkWithin`).
-/

namespace ClusterPlan

open ClusterPlan.Identifier

/-- Master nodes: one of them only for OpenShift, an image that is complete, a public name. -/
def Master.check (o : Orchestration) (m : Master) (patterns : Patterns := .standard) :
    Verdict := do
  refuse (o.runs .openShift && m.count != 1) (.conflict .openShiftMasters)
  checkSome Image.check m.image
  checkDnsName m.dnsPrefix patterns

namespace Pool

/-! ## A pool by itself -/

/-- The name and the operating system of a pool, its public name and its ports. -/
def checkPublic (s : Settings) (orchestrator : String) (p : Pool) : Verdict := do
  checkPoolName p.name s.patterns
  checkOsType p.osType
  checkWhen (orchestrator == Orchestrator.kubernetes.name) do
    refuse (!p.dnsPrefix.isEmpty) (.conflict .kubernetesDnsPrefix)
    refuse (!p.ports.isEmpty) (.conflict .kubernetesPorts)
  refuse (p.dnsPrefix.isEmpty && !p.ports.isEmpty) (.conflict (.portsWithoutPrefix orchestrator))
  checkWhen (!p.dnsPrefix.isEmpty) do
    checkDnsName p.dnsPrefix s.patterns
    checkPorts p.ports p.name

/-- A pool that has a public name and no ports gets the given ones. -/
def withPorts (ports : List Int) (p : Pool) : Pool :=
  if !p.dnsPrefix.isEmpty && p.ports.isEmpty then { p with ports } else p

/-- The ways in which disks are stored. -/
def storageAccount : String := "StorageAccount"

/-- Disks that the cloud manages. -/
def managedDisks : String := "ManagedDisks"

/-- The grouping in availability sets. -/
def availabilitySet : String := "AvailabilitySet"

/-- The grouping in scale sets. -/
def scaleSets : String := "VirtualMachineScaleSets"

/-- Data disks need a storage and a grouping that are both chosen and go together. -/
def checkDisks (p : Pool) : Verdict :=
  checkWhen (!p.diskSizesGB.isEmpty) do
    refuse (!(p.storageProfile == storageAccount || p.storageProfile == managedDisks))
      (.missing .storageProfile)
    refuse (!(p.isScaleSet || p.isAvailabilitySet)) (.missing .availabilityProfile)
    refuse (p.storageProfile == storageAccount && p.isScaleSet) (.conflict .scaleSetDisks)

/-- The disks and the image of a pool. -/
def checkEquipment (p : Pool) : Verdict := do
  p.checkDisks
  checkSome Image.check p.image

/-! ## A pool within a plan -/

/-- The groupings of machines; an empty one means scale sets. -/
def availabilityProfiles : List String := ["", availabilitySet, scaleSets]

/-- The grouping, the role, the storage and the labels that an orchestrator allows. -/
def checkChoices (s : Settings) (o : Orchestration) (p : Pool) : Verdict := do
  refuse (!availabilityProfiles.contains p.availabilityProfile)
    (.malformed (.availability p.availabilityProfile p.name))
  refuse (o.runs .openShift && !p.isAvailabilitySet) (.conflict .openShiftAvailability)
  refuse (!(p.role.isEmpty || (o.runs .openShift && p.role == "infra")))
    (.conflict (.role p.role o.type))
  refuse (o.runs .openShift && p.storageProfile != managedDisks) (.conflict .openShiftStorage)
  refuse (!p.nodeLabels.entries.isEmpty && !(o.runs .dcos || o.runs .kubernetes))
    (.conflict .nodeLabels)
  checkWhen (o.runs .kubernetes) (checkEach (checkLabel s) p.nodeLabels.entries)

/-- The pool is a scale set, or leaves open what it is. -/
def countsAsScaleSet (p : Pool) : Bool :=
  p.availabilityProfile.isEmpty || p.isScaleSet

/-- The use of instance metadata is not switched off. -/
def usesMetadata (o : Orchestration) : Bool :=
  !o.kubernetes.any (·.useInstanceMetadata == some false)

/-- Scale sets need a version of Kubernetes and managed disks. -/
def checkScaleSet (s : Settings) (mode : Mode) (o : Orchestration) (p : Pool) : Verdict :=
  checkWhen p.countsAsScaleSet do
    let version ← o.resolvedVersion mode false
    checkMinimum version s.scaleSetMinimum (.scaleSets s.scaleSetMinimum version)
    checkWhen (usesMetadata o)
      (checkMinimum version s.scaleSetMetadataMinimum
        (.scaleSetMetadata s.scaleSetMetadataMinimum))
    refuse (p.storageProfile == storageAccount) (.conflict .scaleSetStorage)

/-- The orchestrators that can have Windows machines. -/
def windowsOrchestrators : List Orchestrator := [.dcos, .swarm, .swarmMode, .kubernetes]

/-- A pool with Windows needs an orchestrator and a version that support it, and an
administrator. -/
def checkWindows (mode : Mode) (plan : Plan) : Verdict := do
  let o := plan.orchestration
  refuse (!windowsOrchestrators.any o.runs) (.conflict (.windows o.type))
  checkWhen (o.runs .kubernetes) do
    let version ← o.resolvedVersion mode plan.hasWindows
    refuse (!runsOnWindows version) (.unsupported (.windows o.type version))
  refuse plan.windows.isNone (.missing .windows)
  checkSome WindowsAccess.check plan.windows

/-- The grouping of the first pool, which all others share. -/
def checkSameAvailability (plan : Plan) (p : Pool) : Verdict :=
  refuse (plan.pools.head?.any fun first => p.availabilityProfile != first.availabilityProfile)
    (.conflict .mixedAvailability)

/-- The rules for a pool that look at the whole plan. -/
def checkWithin (s : Settings) (mode : Mode) (plan : Plan) (p : Pool) : Verdict := do
  p.checkChoices s plan.orchestration
  checkWhen (plan.orchestration.runs .kubernetes) do
    p.checkScaleSet s mode plan.orchestration
    p.checkSameAvailability plan
  checkWhen p.isWindows (checkWindows mode plan)

end Pool

end ClusterPlan
