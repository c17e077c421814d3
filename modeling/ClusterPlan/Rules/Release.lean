import ClusterPlan.Catalogue
import ClusterPlan.Fault
import ClusterPlan.Plan

/-!
# Versions of a plan

Which version of its orchestrator a plan comes to, and whether a version is new enough for a
feature. A new cluster needs a request that the catalogue resolves. A cluster that exists already
may also keep a version that is offered no more, as long as its minor release has a newer patch,
which then takes its place.
-/

namespace ClusterPlan

/-- What a plan is for. -/
inductive Mode where
  | create
  | update
  deriving DecidableEq, Repr

namespace Orchestration

/-- The orchestrator is the given one. -/
def runs (o : Orchestration) (orchestrator : Orchestrator) : Bool :=
  o.type == orchestrator.name

/-- The diagnostic of a request that comes to no version. -/
def unresolved (o : Orchestration) : Fault :=
  .unsupported (.request o.type o.release o.version)

/-- The version that the plan comes to. -/
def resolvedVersion (mode : Mode) (windows : Bool) (o : Orchestration) : Except Fault String :=
  match resolveVersion o.type o.release o.version windows with
  | some v => .ok v
  | none =>
    match mode with
    | .create => .error o.unresolved
    | .update =>
      match patchVersion o.type o.version with
      | .ok (some v) => .ok v
      | .ok none => .error o.unresolved
      | .error .malformed => .error o.unresolved
      | .error .overlong => .error .overlongVersion

end Orchestration

/-- The version that a text denotes after one leading letter `v`, with the fault for a text that
denotes none. -/
def readVersion (text : String) (otherwise : Malformed) : Except Fault Version :=
  match Version.read (Catalogue.dropV text) with
  | .ok v => .ok v
  | .error .malformed => .error (.malformed otherwise)
  | .error .overlong => .error .overlongVersion

/-- Whether a version is at least as new as a minimum. -/
def meetsMinimum (version minimum : String) : Except Fault Bool := do
  let v ← readVersion version (.version version)
  let w ← readVersion minimum (.minimum minimum version)
  return v.atLeast w

/-- A version must be at least as new as a minimum. -/
def checkMinimum (version minimum : String) (conflict : Conflict) : Verdict := do
  let met ← meetsMinimum version minimum
  refuse (!met) (.conflict conflict)

/-- The same rule with a diagnostic that is given. -/
def requireMinimum (version minimum diagnostic : String) : Verdict :=
  checkMinimum version minimum (.belowMinimum diagnostic)

/-- A version of Kubernetes that runs on Windows. -/
def runsOnWindows (version : String) : Bool :=
  Catalogue.kubernetesWindows.offers version

/-- A version of Kubernetes that retries failed calls to the cloud. -/
def supportsBackoff (version : String) : Bool :=
  Catalogue.kubernetes.offers version

/-- A version of Kubernetes that limits the rate of calls to the cloud: the same versions. -/
def supportsRateLimit (version : String) : Bool :=
  supportsBackoff version

end ClusterPlan
