import ClusterPlan.Rules.Kubernetes

/-!
# Orchestrators

A plan names one of the known orchestrators and gives no settings of another one. For a new cluster
the requested version must be supported and the settings must suit it; for one that exists, only the
version counts, and only for DC/OS and Kubernetes.
-/

namespace ClusterPlan

namespace Dcos

/-- The fixed address of the bootstrap node is an address. -/
def check (d : Dcos) : Verdict :=
  checkSome (fun b =>
      refuse (!b.staticIP.isEmpty && (Address.read? b.staticIP).isNone)
        (.malformed (.bootstrapAddress b.staticIP)))
    d.bootstrap

end Dcos

namespace Orchestration

/-- The version of OpenShift that is built from its latest sources. -/
def unstable : String := "unstable"

/-- DC/OS needs a supported version and a bootstrap node with an address. -/
def checkDcos (o : Orchestration) : Verdict := do
  discard (o.resolvedVersion .create false)
  checkSome Dcos.check o.dcos

/-- Kubernetes needs a supported version and settings that suit it. -/
def checkKubernetes (s : Settings) (o : Orchestration) : Verdict := do
  let version ← o.resolvedVersion .create false
  checkSome (fun k => do
      k.check s version
      k.checkFeatures s version o.version)
    o.kubernetes

/-- OpenShift needs credentials and a version that is supported, or the unstable one. -/
def checkOpenShift (o : Orchestration) : Verdict := do
  refuse (o.version != unstable && (resolveVersion o.type o.release o.version false).isNone)
    (.unsupported .openShift)
  refuse (!o.openShift.any fun c => !c.clusterUsername.isEmpty && !c.clusterPassword.isEmpty)
    (.missing .openShiftCredentials)

/-- The rules of the orchestrator itself. -/
def checkOwn (s : Settings) (mode : Mode) (o : Orchestration) : Orchestrator → Verdict
  | .dcos =>
    match mode with
    | .create => o.checkDcos
    | .update => discard (o.resolvedVersion .update false)
  | .kubernetes =>
    match mode with
    | .create => o.checkKubernetes s
    | .update => discard (o.resolvedVersion .update false)
  | .openShift =>
    match mode with
    | .create => o.checkOpenShift
    | .update => .ok ()
  | .swarm => .ok ()
  | .swarmMode => .ok ()

/-- There are no settings of another orchestrator. -/
def checkSections (o : Orchestration) : Verdict := do
  refuse (!(o.runs .kubernetes || o.runs .openShift) && o.kubernetes.isSome)
    (.conflict .kubernetesSection)
  refuse (!o.runs .openShift && o.openShift.isSome) (.conflict .openShiftSection)
  refuse (!o.runs .dcos && o.dcos.any (!·.isEmpty)) (.conflict .dcosSection)

/-- The orchestrator, its version and its settings. -/
def check (s : Settings) (mode : Mode) (o : Orchestration) : Verdict :=
  match Orchestrator.ofName? o.type with
  | none => .error (.unsupported (.orchestrator o.type))
  | some orchestrator => do
    o.checkOwn s mode orchestrator
    o.checkSections

end Orchestration

end ClusterPlan
