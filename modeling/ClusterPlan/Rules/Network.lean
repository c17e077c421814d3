import ClusterPlan.Fault
import ClusterPlan.Plan
import ClusterPlan.Rules.Release

/-!
# Networking and container runtime

Which network plugins, network policies and container runtimes there are, and which of them go
together. A plan without Kubernetes settings leaves all three empty.
-/

namespace ClusterPlan

namespace Network

/-- The plugins that connect the pods. -/
def plugins : List String := ["", "azure", "kubenet", "flannel", "cilium"]

/-- The policies that restrict the traffic of the pods. The last two are kept for old plans. -/
def policies : List String := ["", "calico", "cilium", "azure", "none"]

/-- The container runtimes. -/
def runtimes : List String := ["", "docker", "clear-containers", "containerd"]

/-- The pairs of a plugin and a policy that are supported. -/
def supported : List (String × String) :=
  [("", ""), ("azure", ""), ("kubenet", ""), ("flannel", ""), ("cilium", ""),
    ("cilium", "cilium"), ("kubenet", "calico"), ("", "calico"), ("", "cilium"), ("", "azure"),
    ("", "none")]

/-- A supported pair of a plugin and a policy. -/
def isSupported (plugin policy : String) : Bool :=
  supported.contains (plugin, policy)

/-- The policies that Windows does not support. -/
def policiesNotOnWindows : List String := ["calico", "cilium"]

/-- The container runtimes that Windows does not support. -/
def runtimesNotOnWindows : List String := ["clear-containers", "containerd"]

end Network

namespace Plan

/-- The settings of Kubernetes. -/
def kubernetes (p : Plan) : Option Kubernetes := p.orchestration.kubernetes

/-- A text of the Kubernetes settings, empty where there are none. -/
def kubernetesText (p : Plan) (field : Kubernetes → String) : String :=
  match p.kubernetes with
  | some k => field k
  | none => ""

@[simp] theorem kubernetesText_none {p : Plan} (h : p.kubernetes = none)
    (field : Kubernetes → String) : p.kubernetesText field = "" := by
  rw [kubernetesText, h]

@[simp] theorem kubernetesText_some {p : Plan} {k : Kubernetes} (h : p.kubernetes = some k)
    (field : Kubernetes → String) : p.kubernetesText field = field k := by
  rw [kubernetesText, h]

/-- The plugin is a known one. -/
def checkNetworkPlugin (p : Plan) : Verdict :=
  let plugin := p.kubernetesText (·.networkPlugin)
  refuse (p.orchestration.runs .kubernetes && !Network.plugins.contains plugin)
    (.malformed (.networkPlugin plugin))

/-- The policy is a known one, and works on Windows if that is needed. -/
def checkNetworkPolicy (p : Plan) : Verdict := do
  let policy := p.kubernetesText (·.networkPolicy)
  refuse (p.orchestration.runs .kubernetes && !Network.policies.contains policy)
    (.malformed (.networkPolicy policy))
  refuse (p.orchestration.runs .kubernetes && Network.policiesNotOnWindows.contains policy &&
      p.hasWindows)
    (.conflict (.policyOnWindows policy))

/-- Plugin and policy go together. -/
def checkNetworkPair (p : Plan) : Verdict :=
  let plugin := p.kubernetesText (·.networkPlugin)
  let policy := p.kubernetesText (·.networkPolicy)
  refuse (!Network.isSupported plugin policy) (.conflict (.policyWithPlugin policy plugin))

/-- The container runtime is a known one, and works on Windows if that is needed. -/
def checkContainerRuntime (p : Plan) : Verdict := do
  let runtime := p.kubernetesText (·.containerRuntime)
  refuse (p.orchestration.runs .kubernetes && !Network.runtimes.contains runtime)
    (.malformed (.containerRuntime runtime))
  refuse (p.orchestration.runs .kubernetes && Network.runtimesNotOnWindows.contains runtime &&
      p.hasWindows)
    (.conflict (.runtimeOnWindows runtime))

/-- The add-on that grows and shrinks the pools. -/
def autoscaler : String := "cluster-autoscaler"

/-- Some pool consists of availability sets or leaves that open. -/
def hasAvailabilitySets (p : Plan) : Bool :=
  p.pools.any fun pool => pool.availabilityProfile.isEmpty || pool.isAvailabilitySet

/-- The autoscaler needs pools that are explicitly scale sets. -/
def checkAddons (p : Plan) : Verdict :=
  refuse ((p.kubernetes.any fun k => k.addons.any fun a => a.name == autoscaler && a.isEnabled) &&
      p.hasAvailabilitySets)
    (.conflict .autoscaler)

end Plan

end ClusterPlan
