import ClusterPlan.Version.Reader

/-!
# Catalogues of orchestrator versions

Each orchestrator has a catalogue of the versions it is known in, oldest first. A version is
offered for new clusters or only recognised, and one version is the default. The Windows catalogue
of Kubernetes lists the same versions; of those it offers the ones from 1.7.0 on that are no
previews.

`resolve` reconciles a requested release and version into one offered version:

* neither requested: the default;
* a release alone: its newest offered patch;
* a version alone: that version, if it is offered;
* both: the version, if it is offered and belongs to the release.

One leading letter `v` of a request does not count, and a request of nothing else counts as none.
-/

namespace ClusterPlan

/-- The orchestrators. -/
inductive Orchestrator where
  | dcos
  | swarm
  | swarmMode
  | kubernetes
  | openShift
  deriving DecidableEq, Repr

namespace Orchestrator

/-- The name of an orchestrator in a plan. -/
def name : Orchestrator → String
  | dcos => "DCOS"
  | swarm => "Swarm"
  | swarmMode => "SwarmMode"
  | kubernetes => "Kubernetes"
  | openShift => "OpenShift"

/-- All orchestrators. -/
def all : List Orchestrator := [dcos, swarm, swarmMode, kubernetes, openShift]

/-- The orchestrator that a name stands for. -/
def ofName? (s : String) : Option Orchestrator :=
  all.find? fun o => o.name == s

theorem ofName?_name (o : Orchestrator) : ofName? o.name = some o := by
  cases o <;> decide

theorem name_of_ofName? {s : String} {o : Orchestrator} (h : ofName? s = some o) :
    o.name = s := by
  simpa using List.find?_some h

end Orchestrator

/-- A version in a catalogue: its text, and whether it is offered for new clusters. -/
structure Listing where
  text : String
  offered : Bool
  deriving DecidableEq, Repr

/-- The versions of an orchestrator, oldest first, and the default one. -/
structure Catalogue where
  listings : List Listing
  default : String

namespace Catalogue

/-- Versions that are recognised, and versions that are offered. -/
def make (recognised offered : List String) (default : String) : Catalogue where
  listings := recognised.map (⟨·, false⟩) ++ offered.map (⟨·, true⟩)
  default := default

/-! ## The catalogues -/

/-- The versions of Kubernetes. -/
def kubernetes : Catalogue :=
  make ["1.6.6", "1.6.9", "1.6.11", "1.6.12", "1.6.13"]
    ["1.7.0", "1.7.1", "1.7.2", "1.7.4", "1.7.5", "1.7.7", "1.7.9", "1.7.10", "1.7.12", "1.7.13",
      "1.7.14", "1.7.15", "1.7.16", "1.8.0", "1.8.1", "1.8.2", "1.8.4", "1.8.6", "1.8.7", "1.8.8",
      "1.8.9", "1.8.10", "1.8.11", "1.8.12", "1.8.13", "1.9.0", "1.9.1", "1.9.2", "1.9.3", "1.9.4",
      "1.9.5", "1.9.6", "1.9.7", "1.9.8", "1.10.0", "1.10.1", "1.10.2", "1.10.3", "1.10.4",
      "1.11.0-beta.1"]
    "1.9.8"

/-- The first version that runs on Windows. -/
def firstWindowsVersion : Version := ⟨0, [1, 7, 0], none, none, none, none⟩

/-- A version that runs on Windows: no preview, and from the first such version on. -/
def runsOnWindows (text : String) : Bool :=
  match Version.read text with
  | .ok v => v.atLeast firstWindowsVersion && !v.isPreview
  | .error _ => false

/-- The versions of Kubernetes for clusters with Windows machines. -/
def kubernetesWindows : Catalogue where
  listings := kubernetes.listings.map fun l => ⟨l.text, l.offered && runsOnWindows l.text⟩
  default := "1.9.8"

/-- The versions of DC/OS. -/
def dcos : Catalogue :=
  make ["1.8.8"] ["1.9.0", "1.9.8", "1.10.0", "1.11.0"] "1.11.0"

/-- The versions of OpenShift. -/
def openShift : Catalogue := make [] ["3.9.0"] "3.9.0"

/-- The versions of Swarm. -/
def swarm : Catalogue := make [] ["1.1.0"] "1.1.0"

/-- The versions of Docker for Swarm mode. -/
def swarmMode : Catalogue := make [] ["17.03.0"] "17.03.0"

/-- The catalogue of an orchestrator. -/
def of (windows : Bool) : Orchestrator → Catalogue
  | .kubernetes => if windows then kubernetesWindows else kubernetes
  | .dcos => dcos
  | .openShift => openShift
  | .swarm => swarm
  | .swarmMode => swarmMode

/-- The catalogue for the name of an orchestrator. -/
def ofName? (name : String) (windows : Bool) : Option Catalogue :=
  (Orchestrator.ofName? name).map (of windows)

/-! ## Looking versions up -/

/-- The versions that are recognised, oldest first. -/
def known (c : Catalogue) : List String :=
  c.listings.map Listing.text

/-- The versions that are offered, oldest first. -/
def offered (c : Catalogue) : List String :=
  (c.listings.filter Listing.offered).map Listing.text

/-- Whether a version is listed and offered. -/
def offers (c : Catalogue) (text : String) : Bool :=
  c.listings.any fun l => l.text == text && l.offered

/-- Texts that are versions, with the versions they are. -/
def readAll (texts : List String) : List (String × Version) :=
  texts.filterMap fun text =>
    match Version.read text with
    | .ok v => some (text, v)
    | .error _ => none

/-- The newest version of a release, and of equally new ones the first; carried on from the newest
one so far. -/
def newestOf (series : String) (best : Option (String × Version)) :
    List (String × Version) → Option (String × Version)
  | [] => best
  | (text, v) :: rest =>
    if v.series = series then
      match best with
      | none => newestOf series (some (text, v)) rest
      | some (_, w) =>
        if v.newer w then newestOf series (some (text, v)) rest else newestOf series best rest
    else newestOf series best rest

/-- The newest patch of a release among candidates, those that are no versions left out. -/
def newestPatch (series : String) (candidates : List String) : Option String :=
  (newestOf series none (readAll candidates)).map Prod.fst

/-- A text that would be a version, were it not for a number too long to be read. -/
def isOverlong (text : String) : Bool :=
  match Version.read text with
  | .error .overlong => true
  | _ => false

/-- The newest patch of a release among candidates. A candidate with a number too long to be read is
a fault. -/
def newestPatch? (series : String) (candidates : List String) :
    Except Version.Fault (Option String) :=
  if candidates.any isOverlong then .error .overlong
  else .ok (newestPatch series candidates)

/-! ## Resolving requests -/

/-- A request without one leading letter `v`. -/
def dropV (s : String) : String :=
  match s.toList with
  | 'v' :: rest => String.ofList rest
  | _ => s

/-- The minor release of a text that is a version. -/
def series? (text : String) : Option String :=
  match Version.read text with
  | .ok v => some v.series
  | .error _ => none

/-- The one version that a requested release and version come to. -/
def resolve (c : Catalogue) (release version : String) : Option String :=
  let release := dropV release
  let version := dropV version
  if version.isEmpty then
    if release.isEmpty then some c.default else newestPatch release c.offered
  else if !c.offered.contains version then none
  else if release.isEmpty || series? version == some release then some version
  else none

/-- The newest offered patch of the minor release that a version belongs to, and the default for no
version. -/
def patchFor (c : Catalogue) (version : String) : Except Version.Fault (Option String) :=
  if version.isEmpty then .ok (some c.default)
  else match Version.read (dropV version) with
    | .ok v => .ok (c.resolve v.series "")
    | .error .malformed => .ok none
    | .error .overlong => .error .overlong

end Catalogue

/-- The one version of a named orchestrator that a requested release and version come to. -/
def resolveVersion (orchestrator release version : String) (windows : Bool) : Option String :=
  (Catalogue.ofName? orchestrator windows).bind (·.resolve release version)

/-- The newest offered patch, for a named orchestrator, of the minor release of a version. -/
def patchVersion (orchestrator version : String) : Except Version.Fault (Option String) :=
  match Catalogue.ofName? orchestrator false with
  | some c => c.patchFor version
  | none =>
    -- an unknown orchestrator offers nothing, but the version is still read
    match Version.read (Catalogue.dropV version) with
    | .error .overlong => .error .overlong
    | _ => .ok none

end ClusterPlan
