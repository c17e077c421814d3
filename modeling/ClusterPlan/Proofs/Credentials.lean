import ClusterPlan.Proofs.Acceptance
import Mathlib.Data.List.Forall2

/-!
# Credentials stay out of the outcome

A plan holds four kinds of credentials: the password of an OpenShift cluster, that of the Windows
administrator, the keys of the Linux administrator and the secret of the service principal. The
rules ask whether a credential is given and never what it is, and no diagnostic quotes one.

`Plan.concealed` is a plan whose credentials have been replaced by a fixed text where they are
given. Every rule says the same of a plan and of the concealed one (the lemmas `…_concealed`), so a
run on the concealed plan is the run on the plan itself, seen from outside
(`Plan.validate_concealed`). Two plans that are equal up to their credentials look alike once
concealed, and `Plan.validate_eq_of_equalUpToCredentials` concludes that validation cannot tell
them apart.
-/

namespace ClusterPlan

/-! ## Plans that differ in credentials only

Two credentials may have any contents, but one is given exactly when the other one is. -/

structure OpenShift.EqualUpToCredentials (a b : OpenShift) : Prop where
  username : a.clusterUsername = b.clusterUsername
  password : a.clusterPassword = "" ↔ b.clusterPassword = ""

structure Orchestration.EqualUpToCredentials (a b : Orchestration) : Prop where
  type : a.type = b.type
  release : a.release = b.release
  version : a.version = b.version
  kubernetes : a.kubernetes = b.kubernetes
  dcos : a.dcos = b.dcos
  openShift : Option.Rel OpenShift.EqualUpToCredentials a.openShift b.openShift

structure LinuxAccess.EqualUpToCredentials (a b : LinuxAccess) : Prop where
  adminUsername : a.adminUsername = b.adminUsername
  keys : List.Forall₂ (fun k l : PublicKey => k.keyData = "" ↔ l.keyData = "")
    a.ssh.publicKeys b.ssh.publicKeys
  secrets : a.secrets = b.secrets

structure WindowsAccess.EqualUpToCredentials (a b : WindowsAccess) : Prop where
  adminUsername : a.adminUsername = b.adminUsername
  adminPassword : a.adminPassword = "" ↔ b.adminPassword = ""
  imageSourceURL : a.imageSourceURL = b.imageSourceURL
  secrets : a.secrets = b.secrets

structure ServicePrincipal.EqualUpToCredentials (a b : ServicePrincipal) : Prop where
  clientId : a.clientId = b.clientId
  secret : a.secret = "" ↔ b.secret = ""
  objectId : a.objectId = b.objectId
  secretReference : a.secretReference = b.secretReference

/-- Two plans that differ in the contents of their credentials at most. -/
structure Plan.EqualUpToCredentials (p q : Plan) : Prop where
  orchestration : p.orchestration.EqualUpToCredentials q.orchestration
  master : p.master = q.master
  pools : p.pools = q.pools
  linux : p.linux.EqualUpToCredentials q.linux
  windows : Option.Rel WindowsAccess.EqualUpToCredentials p.windows q.windows
  servicePrincipal :
    Option.Rel ServicePrincipal.EqualUpToCredentials p.servicePrincipal q.servicePrincipal
  directory : p.directory = q.directory
  account : p.account = q.account
  extensions : p.extensions = q.extensions

/-! ## Concealed plans -/

/-- What can be seen of a credential: whether it is given. -/
def conceal (credential : String) : String :=
  if credential = "" then "" else "concealed"

/-- A concealed credential is given iff the credential is. -/
@[simp] theorem isEmpty_conceal (credential : String) :
    (conceal credential).isEmpty = credential.isEmpty := by
  by_cases h : credential = ""
  · simp [conceal, h]
  · have hempty : credential.isEmpty = false := by simpa using h
    rw [conceal, if_neg h, hempty]
    rfl

/-- Two credentials that are both given, or both not, look alike. -/
theorem conceal_congr {a b : String} (h : a = "" ↔ b = "") : conceal a = conceal b := by
  simp [conceal, h]

def OpenShift.concealed (c : OpenShift) : OpenShift :=
  { c with clusterPassword := conceal c.clusterPassword }

def Orchestration.concealed (o : Orchestration) : Orchestration :=
  { o with openShift := o.openShift.map OpenShift.concealed }

def PublicKey.concealed (key : PublicKey) : PublicKey := ⟨conceal key.keyData⟩

def LinuxAccess.concealed (l : LinuxAccess) : LinuxAccess :=
  { l with ssh := ⟨l.ssh.publicKeys.map PublicKey.concealed⟩ }

def WindowsAccess.concealed (w : WindowsAccess) : WindowsAccess :=
  { w with adminPassword := conceal w.adminPassword }

def ServicePrincipal.concealed (p : ServicePrincipal) : ServicePrincipal :=
  { p with secret := conceal p.secret }

/-- A plan as it can be seen by those who must not know its credentials. -/
def Plan.concealed (p : Plan) : Plan :=
  { p with
    orchestration := p.orchestration.concealed
    linux := p.linux.concealed
    windows := p.windows.map WindowsAccess.concealed
    servicePrincipal := p.servicePrincipal.map ServicePrincipal.concealed }

/-- Related sections look alike, if there are any, once a single one does. -/
theorem map_eq_of_optionRel {α β : Type} {R : α → α → Prop} {f : α → β} {a b : Option α}
    (h : Option.Rel R a b) (hf : ∀ a b, R a b → f a = f b) : a.map f = b.map f := by
  cases h with
  | none => rfl
  | some h => exact congrArg some (hf _ _ h)

theorem OpenShift.EqualUpToCredentials.concealed_eq {a b : OpenShift}
    (h : a.EqualUpToCredentials b) : a.concealed = b.concealed := by
  simp only [concealed, h.username, conceal_congr h.password]

theorem Orchestration.EqualUpToCredentials.concealed_eq {a b : Orchestration}
    (h : a.EqualUpToCredentials b) : a.concealed = b.concealed := by
  simp only [concealed, h.type, h.release, h.version, h.kubernetes, h.dcos,
    map_eq_of_optionRel h.openShift fun _ _ => OpenShift.EqualUpToCredentials.concealed_eq]

theorem PublicKey.map_concealed_eq {ks ls : List PublicKey}
    (h : List.Forall₂ (fun k l : PublicKey => k.keyData = "" ↔ l.keyData = "") ks ls) :
    ks.map PublicKey.concealed = ls.map PublicKey.concealed := by
  induction h with
  | nil => rfl
  | cons hkey _ ih =>
    rw [List.map_cons, List.map_cons, concealed, concealed, conceal_congr hkey, ih]

theorem LinuxAccess.EqualUpToCredentials.concealed_eq {a b : LinuxAccess}
    (h : a.EqualUpToCredentials b) : a.concealed = b.concealed := by
  simp only [concealed, h.adminUsername, h.secrets, PublicKey.map_concealed_eq h.keys]

theorem WindowsAccess.EqualUpToCredentials.concealed_eq {a b : WindowsAccess}
    (h : a.EqualUpToCredentials b) : a.concealed = b.concealed := by
  simp only [concealed, h.adminUsername, h.imageSourceURL, h.secrets,
    conceal_congr h.adminPassword]

theorem ServicePrincipal.EqualUpToCredentials.concealed_eq {a b : ServicePrincipal}
    (h : a.EqualUpToCredentials b) : a.concealed = b.concealed := by
  simp only [concealed, h.clientId, h.objectId, h.secretReference, conceal_congr h.secret]

/-- Plans that are equal up to their credentials look alike once these are concealed. -/
theorem Plan.EqualUpToCredentials.concealed_eq {p q : Plan} (h : p.EqualUpToCredentials q) :
    p.concealed = q.concealed := by
  simp only [concealed, h.orchestration.concealed_eq, h.master, h.pools, h.linux.concealed_eq,
    map_eq_of_optionRel h.windows fun _ _ => WindowsAccess.EqualUpToCredentials.concealed_eq,
    map_eq_of_optionRel h.servicePrincipal fun _ _ =>
      ServicePrincipal.EqualUpToCredentials.concealed_eq,
    h.directory, h.account, h.extensions]

/-! ## Rules that ask for credentials -/

/-- A rule for what a section is turned into is a rule for the section. -/
theorem checkSome_map {α β : Type} (f : α → β) (rule : β → Verdict) (value : Option α) :
    checkSome rule (value.map f) = checkSome (fun a => rule (f a)) value := by
  cases value <;> rfl

/-- The first key is asked for, and whether it is empty. -/
theorem LinuxAccess.check_concealed (l : LinuxAccess) : l.concealed.check = l.check := by
  unfold check concealed PublicKey.concealed
  simp only [List.head?_map, Option.any_map, isEmpty_conceal]

/-- Name and password are asked for, and not what they are. -/
theorem WindowsAccess.check_concealed (w : WindowsAccess) : w.concealed.check = w.check := by
  unfold check concealed
  simp only [isEmpty_conceal]

namespace Orchestration

variable (s : Settings) (mode : Mode) (o : Orchestration)

theorem checkOpenShift_concealed : o.concealed.checkOpenShift = o.checkOpenShift := by
  unfold checkOpenShift concealed OpenShift.concealed
  simp only [Option.any_map, isEmpty_conceal]

theorem checkSections_concealed : o.concealed.checkSections = o.checkSections := by
  unfold checkSections concealed runs
  simp only [Option.isSome_map]

/-- Only OpenShift has rules for credentials of its own. -/
theorem checkOwn_concealed (orchestrator : Orchestrator) :
    o.concealed.checkOwn s mode orchestrator = o.checkOwn s mode orchestrator := by
  cases orchestrator with
  | openShift =>
    cases mode with
    | create => exact o.checkOpenShift_concealed
    | update => rfl
  | dcos | kubernetes | swarm | swarmMode => rfl

theorem check_concealed : o.concealed.check s mode = o.check s mode := by
  unfold check
  rw [show o.concealed.type = o.type from rfl]
  simp only [checkOwn_concealed, checkSections_concealed]

end Orchestration

/-! ## Whole plans -/

namespace Plan

variable (s : Settings) (mode : Mode) (p : Plan)

/-- The keys are counted. -/
theorem linux_checkFields_concealed : p.concealed.linux.checkFields = p.linux.checkFields := by
  unfold LinuxAccess.checkFields concealed LinuxAccess.concealed
  simp only [List.length_map]

/-- The secret is weighed against a reference to one, by whether it is given. -/
theorem checkServicePrincipal_concealed :
    p.concealed.checkServicePrincipal s = p.checkServicePrincipal s := by
  unfold checkServicePrincipal
  congr 1
  unfold ServicePrincipal.checkNeeded concealed
  cases p.servicePrincipal with
  | none => rfl
  | some principal =>
    show principal.concealed.check _ _ _ = principal.check _ _ _
    unfold ServicePrincipal.check ServicePrincipal.concealed
    simp only [isEmpty_conceal]
    rfl

theorem checkWindowsImage_concealed : p.concealed.checkWindowsImage = p.checkWindowsImage := by
  unfold checkWindowsImage concealed
  simp only [Option.any_map]
  rfl

/-- The rules before the pools look at no credential, but for those of OpenShift and the number of
keys. -/
theorem checkBefore_concealed : p.concealed.checkBefore s mode = p.checkBefore s mode := by
  have hfields : p.concealed.checkFields = p.checkFields := by
    unfold checkFields
    rw [linux_checkFields_concealed]
    rfl
  have horchestration : p.concealed.orchestration.check s mode = p.orchestration.check s mode :=
    p.orchestration.check_concealed s mode
  unfold checkBefore
  rw [hfields, horchestration]
  rfl

theorem checkAfter_concealed : p.concealed.checkAfter s = p.checkAfter s := by
  have hlinux : p.concealed.linux.check = p.linux.check := p.linux.check_concealed
  unfold checkAfter
  rw [hlinux, checkServicePrincipal_concealed, checkWindowsImage_concealed]
  rfl

end Plan

namespace Pool

variable (s : Settings) (mode : Mode) (plan : Plan)

theorem checkWindows_concealed : checkWindows mode plan.concealed = checkWindows mode plan := by
  unfold checkWindows Plan.concealed
  simp only [Option.isNone_map, checkSome_map, WindowsAccess.check_concealed]
  rfl

/-- A pool is judged alike within a plan and within the concealed one. -/
theorem visit_concealed (p : Pool) : p.visit s mode plan.concealed = p.visit s mode plan := by
  have hwithin : p.checkWithin s mode plan.concealed = p.checkWithin s mode plan := by
    unfold checkWithin
    rw [checkWindows_concealed]
    rfl
  unfold visit
  rw [hwithin]
  rfl

theorem visitAll_concealed (ps : List Pool) :
    visitAll s mode plan.concealed ps = visitAll s mode plan ps := by
  induction ps with
  | nil => rfl
  | cons p ps ih => rw [visitAll, visitAll, visit_concealed, ih]

end Pool

namespace Plan

variable (s : Settings) (mode : Mode) (p : Plan)

/-- Concealing the credentials first or after a run comes to the same, and what comes of the run
does not depend on them. -/
theorem validate_concealed :
    p.concealed.validate s mode =
      ((p.validate s mode).1.concealed, (p.validate s mode).2) := by
  cases h : p.checkBefore s mode with
  | error fault =>
    have hconcealed : p.concealed.checkBefore s mode = .error fault := by
      rw [checkBefore_concealed, h]
    rw [validate_of_error s mode p h, validate_of_error s mode _ hconcealed]
  | ok =>
    have hconcealed : p.concealed.checkBefore s mode = .ok () := by
      rw [checkBefore_concealed, h]
    have hloop : Pool.visitAll s mode p.concealed p.concealed.pools =
        Pool.visitAll s mode p p.pools := Pool.visitAll_concealed s mode p p.pools
    rw [validate_of_ok s mode p h, validate_of_ok s mode _ hconcealed, checkAfter_concealed,
      visited, hloop]
    rfl

/-- **Credentials stay out of the outcome.** Validation says the same of two plans that differ only
in the contents of their credentials, diagnostics included, and leaves them with the same pools. -/
theorem validate_eq_of_equalUpToCredentials (p q : Plan) (h : p.EqualUpToCredentials q) :
    (p.validate s mode).2 = (q.validate s mode).2 ∧
      (p.validate s mode).1.pools = (q.validate s mode).1.pools := by
  have hrun : ((p.validate s mode).1.concealed, (p.validate s mode).2) =
      ((q.validate s mode).1.concealed, (q.validate s mode).2) := by
    rw [← validate_concealed, ← validate_concealed, h.concealed_eq]
  obtain ⟨hplan, hverdict⟩ := Prod.mk.inj hrun
  have hpools : (p.validate s mode).1.concealed.pools = (q.validate s mode).1.concealed.pools := by
    rw [hplan]
  exact ⟨hverdict, hpools⟩

/-- The fleet with new credentials for everyone. -/
def rekeyedFleet : Plan :=
  { fleet with
    linux := ⟨"azureuser", ⟨[⟨"ssh-ed25519 BBBB"⟩]⟩, []⟩
    windows := some ⟨"azureuser", "another secret", "", []⟩
    servicePrincipal := some ⟨"client", "a third one", "object", none⟩ }

/-- A fleet and the same fleet with new credentials are told the same and get the same ports. -/
theorem fleet_rekeyed :
    fleet.EqualUpToCredentials rekeyedFleet ∧
      (fleet.validate .standard .create).2 = (rekeyedFleet.validate .standard .create).2 ∧
      (fleet.validate .standard .create).1.pools =
        (rekeyedFleet.validate .standard .create).1.pools := by
  have hequal : fleet.EqualUpToCredentials rekeyedFleet :=
    { orchestration := ⟨rfl, rfl, rfl, rfl, rfl, .none⟩
      master := rfl
      pools := rfl
      linux := ⟨rfl, .cons (by decide) .nil, rfl⟩
      windows := .some ⟨rfl, by decide, rfl, rfl⟩
      servicePrincipal := .some ⟨rfl, by decide, rfl, rfl⟩
      directory := rfl
      account := rfl
      extensions := rfl }
  exact ⟨hequal, validate_eq_of_equalUpToCredentials .standard .create fleet rekeyedFleet hequal⟩

end Plan

end ClusterPlan
