import ClusterPlan.Fault
import ClusterPlan.Identifier.Name
import ClusterPlan.Plan
import ClusterPlan.Settings

/-!
# Names, labels and ports

The rules for names by themselves, and for names and ports that must not be repeated.
-/

namespace ClusterPlan

open ClusterPlan.Identifier

/-- The first member of a list that occurs before it, in the list or among others. -/
def firstRepeated? {α : Type} [DecidableEq α] (before : List α) : List α → Option α
  | [] => none
  | a :: as => if a ∈ before then some a else firstRepeated? (a :: before) as

theorem firstRepeated?_eq_none {α : Type} [DecidableEq α] {before as : List α} :
    firstRepeated? before as = none ↔ as.Nodup ∧ ∀ a ∈ as, a ∉ before := by
  induction as generalizing before with
  | nil => simp [firstRepeated?]
  | cons a as ih =>
    by_cases h : a ∈ before
    · simp [firstRepeated?, h]
    · simp only [firstRepeated?, h, if_false, ih, List.nodup_cons, List.mem_cons, not_or]
      constructor
      · rintro ⟨hn, hb⟩
        refine ⟨⟨fun ha => (hb a ha).1 rfl, hn⟩, ?_⟩
        rintro b (rfl | hbm)
        · exact h
        · exact (hb b hbm).2
      · rintro ⟨⟨ha, hn⟩, hb⟩
        exact ⟨hn, fun b hbm => ⟨fun e => ha (e ▸ hbm), hb b (.inr hbm)⟩⟩

/-- A name that has to be there. -/
def checkName (name label : String) : Verdict :=
  refuse name.isEmpty (.missing (.value label))

/-- The name of a pool. -/
def checkPoolName (name : String) (patterns : Patterns := .standard) : Verdict :=
  refuse (!patterns.poolName name) (.malformed (.poolName name))

/-- The operating systems of a pool; an empty one means Linux. -/
def osTypes : List String := ["", "Linux", "Windows"]

/-- The operating system of a pool. -/
def checkOsType (osType : String) : Verdict :=
  refuse (!osTypes.contains osType) (.malformed .osType)

/-- A name for a public address. -/
def checkDnsName (name : String) (patterns : Patterns := .standard) : Verdict :=
  refuse (!patterns.dnsName name) (.malformed (.dnsName name))

/-- Ports that are all different. -/
def checkPorts (ports : List Int) (pool : String) : Verdict :=
  match firstRepeated? [] ports with
  | some port => .error (.malformed (.duplicatePort pool port))
  | none => .ok ()

/-- Pools whose names are all different. -/
def Pool.checkNames (ps : List Pool) : Verdict :=
  match firstRepeated? [] (ps.map Pool.name) with
  | some name => .error (.conflict (.poolNames name))
  | none => .ok ()

/-- The value of a label, which may be empty. -/
def checkLabelValue (value : String) (patterns : Patterns := .standard) : Verdict :=
  refuse (!value.isEmpty && !patterns.labelValue value) (.malformed (.labelValue value))

/-- The key of a label: its form first, then the length of its domain. -/
def checkLabelKey (limit : Int) (key : String) (patterns : Patterns := .standard) :
    Verdict := do
  refuse (!patterns.labelKey key) (.malformed (.labelKey key))
  refuse ((domainLength? key).any fun length => limit < length)
    (.malformed (.labelDomain key limit))

/-- A label. -/
def checkLabel (s : Settings) (label : String × String) : Verdict := do
  checkLabelKey s.labelDomainLimit label.1 s.patterns
  checkLabelValue label.2 s.patterns

/-- A version of etcd; an empty one means the default. -/
def checkEtcdVersion (valid : List String) (version : String) : Verdict :=
  refuse (!version.isEmpty && !valid.contains version)
    (.malformed (.etcdVersion version valid))

/-- A machine image has a name and a resource group, or neither. -/
def Image.check (i : Image) : Verdict := do
  refuse (i.name.isEmpty && !i.resourceGroup.isEmpty) (.missing .imageName)
  refuse (!i.name.isEmpty && i.resourceGroup.isEmpty) (.missing .imageGroup)

end ClusterPlan
