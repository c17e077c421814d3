import ClusterPlan.Definition
import ClusterPlan.Proofs.WrittenForm

/-!
# Writing a plan and reading it again

A plan that has been read from a document can be written back, each field under its name or under
its alternative name, and the result reads as the same plan (`Plan.read_retraction`). What a
document says loosely, such as a number in quotes, is therefore made precise once: the plan written
back says it strictly, and reading it changes nothing any more.

The passage between a plan and its values loses nothing (`Plan.ofValues_toValues`), no name of a
field is a name of another one of its section (`Plan.wellNamed`), and no field is named like an
envelope's member for the plan.
-/

namespace ClusterPlan

open Function

variable {τ : Type}

/-! ## Sections and their values -/

theorem leftInverse_optionMap {α β : Type} {f : β → α} {g : α → β} (h : LeftInverse f g) :
    LeftInverse (Option.map f) (Option.map g) := by
  intro o
  rw [Option.map_map, h.comp_eq_id, Option.map_id, id]

namespace Bootstrap

theorem ofValues_toValues :
    LeftInverse ofValues (toValues : Bootstrap τ → fields.Values τ) :=
  fun _ => rfl

end Bootstrap

namespace Dcos

theorem ofValues_toValues :
    LeftInverse ofValues (toValues : Dcos τ → fields.Values τ) := by
  intro s
  show { s with bootstrap := (s.bootstrap.map Bootstrap.toValues).map Bootstrap.ofValues } = s
  rw [leftInverse_optionMap Bootstrap.ofValues_toValues]

end Dcos

namespace OpenShift

theorem ofValues_toValues :
    LeftInverse ofValues (toValues : OpenShift τ → fields.Values τ) :=
  fun _ => rfl

end OpenShift

namespace Addon

theorem ofValues_toValues :
    LeftInverse ofValues (toValues : Addon τ → fields.Values τ) :=
  fun _ => rfl

end Addon

namespace Kubernetes

theorem ofValues_toValues :
    LeftInverse ofValues (toValues : Kubernetes τ → fields.Values τ) := by
  intro s
  show { s with addons := (s.addons.map Addon.toValues).map Addon.ofValues } = s
  rw [Addon.ofValues_toValues.list_map]

end Kubernetes

namespace Orchestration

theorem ofValues_toValues :
    LeftInverse ofValues (toValues : Orchestration τ → fields.Values τ) := by
  intro s
  show { s with
    kubernetes := (s.kubernetes.map Kubernetes.toValues).map Kubernetes.ofValues
    dcos := (s.dcos.map Dcos.toValues).map Dcos.ofValues
    openShift := (s.openShift.map OpenShift.toValues).map OpenShift.ofValues } = s
  rw [leftInverse_optionMap Kubernetes.ofValues_toValues,
    leftInverse_optionMap Dcos.ofValues_toValues,
    leftInverse_optionMap OpenShift.ofValues_toValues]

end Orchestration

namespace Image

theorem ofValues_toValues :
    LeftInverse ofValues (toValues : Image τ → fields.Values τ) :=
  fun _ => rfl

end Image

namespace Master

theorem ofValues_toValues :
    LeftInverse ofValues (toValues : Master τ → fields.Values τ) := by
  intro s
  show { s with image := (s.image.map Image.toValues).map Image.ofValues } = s
  rw [leftInverse_optionMap Image.ofValues_toValues]

end Master

namespace Pool

theorem ofValues_toValues :
    LeftInverse ofValues (toValues : Pool τ → fields.Values τ) := by
  intro s
  show { s with image := (s.image.map Image.toValues).map Image.ofValues } = s
  rw [leftInverse_optionMap Image.ofValues_toValues]

end Pool

namespace PublicKey

theorem ofValues_toValues :
    LeftInverse ofValues (toValues : PublicKey τ → fields.Values τ) :=
  fun _ => rfl

end PublicKey

namespace Ssh

theorem ofValues_toValues :
    LeftInverse ofValues (toValues : Ssh τ → fields.Values τ) := by
  intro s
  show { s with publicKeys := (s.publicKeys.map PublicKey.toValues).map PublicKey.ofValues } = s
  rw [PublicKey.ofValues_toValues.list_map]

end Ssh

namespace Vault

theorem ofValues_toValues :
    LeftInverse ofValues (toValues : Vault τ → fields.Values τ) :=
  fun _ => rfl

end Vault

namespace VaultCertificate

theorem ofValues_toValues :
    LeftInverse ofValues (toValues : VaultCertificate τ → fields.Values τ) :=
  fun _ => rfl

end VaultCertificate

namespace VaultSecrets

theorem ofValues_toValues :
    LeftInverse ofValues (toValues : VaultSecrets τ → fields.Values τ) := by
  intro s
  show { s with
    vault := (s.vault.map Vault.toValues).map Vault.ofValues
    certificates :=
      (s.certificates.map VaultCertificate.toValues).map VaultCertificate.ofValues } = s
  rw [leftInverse_optionMap Vault.ofValues_toValues,
    VaultCertificate.ofValues_toValues.list_map]

end VaultSecrets

namespace LinuxAccess

theorem ofValues_toValues :
    LeftInverse ofValues (toValues : LinuxAccess τ → fields.Values τ) := by
  intro s
  show { s with
    ssh := Ssh.ofValues s.ssh.toValues
    secrets := (s.secrets.map VaultSecrets.toValues).map VaultSecrets.ofValues } = s
  rw [Ssh.ofValues_toValues, VaultSecrets.ofValues_toValues.list_map]

end LinuxAccess

namespace WindowsAccess

theorem ofValues_toValues :
    LeftInverse ofValues (toValues : WindowsAccess τ → fields.Values τ) := by
  intro s
  show { s with secrets := (s.secrets.map VaultSecrets.toValues).map VaultSecrets.ofValues } = s
  rw [VaultSecrets.ofValues_toValues.list_map]

end WindowsAccess

namespace SecretReference

theorem ofValues_toValues :
    LeftInverse ofValues (toValues : SecretReference τ → fields.Values τ) :=
  fun _ => rfl

end SecretReference

namespace ServicePrincipal

theorem ofValues_toValues :
    LeftInverse ofValues (toValues : ServicePrincipal τ → fields.Values τ) := by
  intro s
  show { s with secretReference :=
    (s.secretReference.map SecretReference.toValues).map SecretReference.ofValues } = s
  rw [leftInverse_optionMap SecretReference.ofValues_toValues]

end ServicePrincipal

namespace Directory

theorem ofValues_toValues :
    LeftInverse ofValues (toValues : Directory τ → fields.Values τ) :=
  fun _ => rfl

end Directory

namespace Account

theorem ofValues_toValues :
    LeftInverse ofValues (toValues : Account τ → fields.Values τ) :=
  fun _ => rfl

end Account

namespace Extension

theorem ofValues_toValues :
    LeftInverse ofValues (toValues : Extension τ → fields.Values τ) := by
  intro s
  show { s with parametersReference :=
    (s.parametersReference.map SecretReference.toValues).map SecretReference.ofValues } = s
  rw [leftInverse_optionMap SecretReference.ofValues_toValues]

end Extension

/-! ## Plans -/

namespace Plan

/-- A plan holds all that its values hold. -/
theorem ofValues_toValues : LeftInverse ofValues (toValues : Plan τ → fields.Values τ) := by
  intro p
  show (⟨Orchestration.ofValues p.orchestration.toValues, Master.ofValues p.master.toValues,
    (p.pools.map Pool.toValues).map Pool.ofValues, LinuxAccess.ofValues p.linux.toValues,
    (p.windows.map WindowsAccess.toValues).map WindowsAccess.ofValues,
    (p.servicePrincipal.map ServicePrincipal.toValues).map ServicePrincipal.ofValues,
    (p.directory.map Directory.toValues).map Directory.ofValues,
    (p.account.map Account.toValues).map Account.ofValues,
    (p.extensions.map Extension.toValues).map Extension.ofValues⟩ : Plan τ) = p
  rw [Orchestration.ofValues_toValues, Master.ofValues_toValues, Pool.ofValues_toValues.list_map,
    LinuxAccess.ofValues_toValues, leftInverse_optionMap WindowsAccess.ofValues_toValues,
    leftInverse_optionMap ServicePrincipal.ofValues_toValues,
    leftInverse_optionMap Directory.ofValues_toValues,
    leftInverse_optionMap Account.ofValues_toValues, Extension.ofValues_toValues.list_map]

/-- No name of a field is a name of another field of the same section. -/
theorem wellNamed : kind.WellNamed := by decide

/-- The document is a written form of the plan. -/
def WrittenAs (p : Plan Wording) (d : Document) : Prop := kind.WrittenAs p.toValues d

variable {p : Plan Wording} {d : Document} {source : String}

theorem writtenAs_write (p : Plan Wording) : p.WrittenAs p.write := kind.writtenAs_write p.toValues

/-- Reading a written form of a plan as sections yields the plan. -/
theorem WrittenAs.read_eq (h : p.WrittenAs d) : Plan.read d = .ok p := by
  rw [Plan.read, kind.read_of_writtenAs wellNamed p.toValues d h]
  exact congrArg Except.ok (ofValues_toValues p)

/-- A written form is no envelope. -/
theorem WrittenAs.exists_entries (h : p.WrittenAs d) :
    ∃ entries, d = .map entries ∧ Document.member? "properties" entries = none := by
  obtain ⟨ordered, members, hordered, hperm, rfl⟩ := h
  refine ⟨Document.entriesOfRecord members, rfl, Document.member?_eq_none.2 fun hmem => ?_⟩
  have hkeys : (members.map Prod.fst).Perm (ordered.map Prod.fst) := hperm.map Prod.fst
  have hname : "properties" ∈ fields.names := hordered.mem_names _ (hkeys.mem_iff.1 hmem)
  exact absurd hname (by decide)

/-- Reading a written form of a plan as a definition yields the plan. -/
theorem WrittenAs.definition_read_eq (h : p.WrittenAs d) : Definition.read source d = .ok p := by
  obtain ⟨entries, rfl, hproperties⟩ := h.exists_entries
  rw [Definition.read]
  simp only [hproperties, h.read_eq]

/-- **Reading is a retraction.** Where a document describes a plan, the plan can be written back,
and every document that is a written form of it describes the same plan again: with each field
under its name or under its alternative name, the members in any order, absent optional sections as
null. -/
theorem read_retraction (h : Definition.read source d = .ok p) :
    p.WrittenAs p.write ∧ ∀ (again : String) (d' : Document), p.WrittenAs d' →
      Definition.read again d' = Definition.read source d := by
  refine ⟨p.writtenAs_write, fun again d' hwritten => ?_⟩
  rw [h, hwritten.definition_read_eq]

/-- A definition in an envelope that leaves most fields out, quotes its numbers and flags, uses
alternative names here and there, and has half of a pair for a text. -/
def looseDocument : Document :=
  .record [("properties", .record [
    ("orchestratorProfile", .record [("orchestrator_type", .text "Kubernetes")]),
    ("masterProfile", .record [("count", .text "+03.0"), ("dnsPrefix", .text "fleet"),
      ("vmSize", .scalar (.broken [0xD83D])), ("osDiskSizeGB", .text "-09")]),
    ("agent_pool_profiles", .list [.record [
      ("name", .text "workers"), ("count", .scalar (.flag true)),
      ("ports", .list [.text "443", .scalar (.int 80)]),
      ("customNodeLabels", .record [("tier", .text "front"), ("area", .text "west")])]]),
    ("linuxProfile", .record [("ssh", .record [])])])]

/-- The plan that it describes. -/
def loosePlan : Plan Wording where
  orchestration := ⟨"Kubernetes", "", "", none, none, none⟩
  master := ⟨3, "fleet", .broken [0xD83D], -9, "", "", "", "", none⟩
  pools := [⟨"workers", 1, "", 0, "", "", [443, 80], "", "", [], "", none, "",
    TextMap.ofList [("tier", "front"), ("area", "west")]⟩]
  linux := ⟨"", ⟨[]⟩, []⟩
  windows := none
  servicePrincipal := none
  directory := none
  account := none
  extensions := []

/-- What is written of that plan is read as the same plan, whatever the source. -/
theorem loosePlan_read_write :
    Definition.read "fleet" looseDocument = .ok loosePlan ∧
      ∀ again, Definition.read again loosePlan.write = Definition.read "fleet" looseDocument := by
  have hread : Definition.read "fleet" looseDocument = .ok loosePlan := by rfl
  obtain ⟨hwritten, hagain⟩ := read_retraction hread
  exact ⟨hread, fun again => hagain again loosePlan.write hwritten⟩

end Plan

end ClusterPlan
