import ClusterPlan.Identifier.Patterns
import ClusterPlan.Numeral
import ClusterPlan.Text.Blank
import ClusterPlan.Text.Cut

/-!
# Settings

The patterns, limits and defaults that the rules work with. A `Draft` holds any values at all;
`Settings` are a draft without problems (`Draft.problems`), so that the rules need not ask. The
ports of valid settings are never empty, are all different and fit into 16 bits.

Two settings may come from the environment: the ports as a list of integers separated by commas, and
the greatest size of a file.
-/

namespace ClusterPlan

open ClusterPlan.Text ClusterPlan.Identifier

/-- The values of the settings, sound or not. -/
structure Draft where
  patterns : Patterns
  defaultPorts : List Int
  maxFileSize : Int
  minKubeletRetries : Int
  minMaxPods : Int
  labelDomainLimit : Int
  etcdVersions : List String
  aggregatedAPIsMinimum : String
  dataEncryptionMinimum : String
  podSecurityMinimum : String
  externalKmsMinimum : String
  cloudControllerMinimum : String
  scaleSetMinimum : String
  scaleSetMetadataMinimum : String

/-- What is wrong with a draft. -/
inductive DraftProblem where
  | noPorts
  | portOutOfRange (port : Int)
  | repeatedPorts
  | fileSize
  | retries
  deriving DecidableEq, Repr

/-- The wording of a problem. -/
def DraftProblem.message : DraftProblem → String
  | noPorts => "default agent ports must not be empty"
  | portOutOfRange port => s!"default agent port out of range: {port}"
  | repeatedPorts => "default agent ports must be unique"
  | fileSize => "max spec file size must be at least 1 byte"
  | retries => "min kubelet retries must be at least 1"

namespace Draft

/-- The least and the greatest port. -/
def isPort (port : Int) : Bool := 1 ≤ port && port ≤ 65535

/-- The problems of the ports. -/
def portProblems (ports : List Int) : List DraftProblem :=
  (if ports.isEmpty then [.noPorts] else []) ++
    (ports.filter (!isPort ·)).map .portOutOfRange ++
    (if decide ports.Nodup then [] else [.repeatedPorts])

/-- All problems of a draft, in the order in which they are reported. -/
def problems (d : Draft) : List DraftProblem :=
  portProblems d.defaultPorts ++
    (if d.maxFileSize < 1 then [.fileSize] else []) ++
    (if d.minKubeletRetries < 1 then [.retries] else [])

/-- The etcd versions that may be asked for. -/
def etcdVersionList : List String :=
  ["2.2.5", "2.3.0", "2.3.1", "2.3.2", "2.3.3", "2.3.4", "2.3.5", "2.3.6", "2.3.7", "2.3.8",
    "3.0.0", "3.0.1", "3.0.2", "3.0.3", "3.0.4", "3.0.5", "3.0.6", "3.0.7", "3.0.8", "3.0.9",
    "3.0.10", "3.0.11", "3.0.12", "3.0.13", "3.0.14", "3.0.15", "3.0.16", "3.0.17", "3.1.0",
    "3.1.1", "3.1.2", "3.1.3", "3.1.4", "3.1.5", "3.1.6", "3.1.7", "3.1.8", "3.1.9", "3.1.10",
    "3.2.0", "3.2.1", "3.2.2", "3.2.3", "3.2.4", "3.2.5", "3.2.6", "3.2.7", "3.2.8", "3.2.9",
    "3.2.11", "3.2.12", "3.2.13", "3.2.14", "3.2.15", "3.2.16", "3.3.0", "3.3.1"]

/-- The values that hold where nothing else is said. -/
def standard : Draft where
  patterns := .standard
  defaultPorts := [80, 443, 8080]
  maxFileSize := 1024 * 1024
  minKubeletRetries := 4
  minMaxPods := 5
  labelDomainLimit := 253
  etcdVersions := etcdVersionList
  aggregatedAPIsMinimum := "1.7.0"
  dataEncryptionMinimum := "1.7.0"
  podSecurityMinimum := "1.8.0"
  externalKmsMinimum := "1.10.0"
  cloudControllerMinimum := "1.8.0"
  scaleSetMinimum := "1.10.0"
  scaleSetMetadataMinimum := "1.10.2"

end Draft

/-- Settings: a draft without problems. -/
structure Settings extends Draft where
  sound : toDraft.problems = []

/-- Why there are no settings. -/
inductive SettingsFault where
  | unsound (problems : List DraftProblem)
  | noInteger (key text : String)
  | noIntegers (key text : String)
  deriving DecidableEq, Repr

/-- The wording of a fault. -/
def SettingsFault.message : SettingsFault → String
  | unsound problems =>
    "Configuration validation failed:\n  - " ++
      "\n  - ".intercalate (problems.map DraftProblem.message)
  | noInteger key text => s!"{key} must be an integer: {text}"
  | noIntegers key text => s!"{key} must be a comma-separated list of integers: {text}"

/-- A fault whose wording can be written: no port in it is too long. -/
def SettingsFault.isSpeakable : SettingsFault → Bool
  | unsound problems => problems.all fun
    | .portOutOfRange port => Numeral.isWritable port
    | _ => true
  | _ => true

namespace Settings

/-- The settings of a draft. -/
def ofDraft (d : Draft) : Except SettingsFault Settings :=
  if h : d.problems = [] then .ok ⟨d, h⟩ else .error (.unsound d.problems)

/-- The settings that hold where nothing else is said. -/
def standard : Settings := ⟨.standard, by decide⟩

/-! ## Environment -/

/-- The variable that holds the ports. -/
def portsVariable : String := "CLUSTERSPEC_DEFAULT_PORTS"

/-- The variable that holds the greatest size of a file. -/
def fileSizeVariable : String := "CLUSTERSPEC_MAX_SPEC_FILE_SIZE"

/-- The integers of a list separated by commas, of which blank items do not count. -/
def readIntegers (text : String) : Option (List Int) :=
  let items := (splitOn ',' text.toList).map (trim isBlank)
  (items.filter (!·.isEmpty)).mapM (Numeral.read 10)

/-- The settings that an environment asks for. A variable for the ports that is empty counts as
absent. -/
def ofEnvironment (lookup : String → Option String) : Except SettingsFault Settings := do
  let ports ← match lookup portsVariable with
    | none => pure Draft.standard.defaultPorts
    | some text =>
      if text.isEmpty then pure Draft.standard.defaultPorts
      else match readIntegers text with
        | some ports => pure ports
        | none => throw (.noIntegers portsVariable text)
  let size ← match lookup fileSizeVariable with
    | none => pure Draft.standard.maxFileSize
    | some text => match Numeral.read 10 text.toList with
      | some size => pure size
      | none => throw (.noInteger fileSizeVariable text)
  ofDraft { Draft.standard with defaultPorts := ports, maxFileSize := size }

end Settings

end ClusterPlan
