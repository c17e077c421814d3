import ClusterPlan.Proofs.Verdict
import ClusterPlan.Rules.Access

/-!
# What the rules for access say

Each rule about administrators, identities and accounts, as the property that it checks. The
diagnostics name the section that is at fault and play no part in it: a reference to a secret is
right or wrong wherever it stands (`SecretReference.check_eq_ok`).
-/

namespace ClusterPlan

open ClusterPlan.Identifier

/-! ## Administrators and identities -/

/-- When the administrator of the Windows nodes is in order. -/
theorem WindowsAccess.check_eq_ok {w : WindowsAccess} :
    w.check = .ok () ↔
      w.adminUsername ≠ "" ∧ w.adminPassword ≠ "" ∧
        ∀ secrets ∈ w.secrets, secrets.check true = .ok () := by
  simp only [check, then_eq_ok, refuse_eq_ok, checkEach_eq_ok]
  simp

/-- A reference to a secret that names the vault by its path, and the secret. -/
structure SecretReference.Usable (patterns : Patterns) (r : SecretReference) : Prop where
  vault : r.vaultID ≠ ""
  secret : r.secretName ≠ ""
  path : patterns.keyVaultPath r.vaultID = true

theorem SecretReference.check_eq_ok {patterns : Patterns} {noVault noSecret malformed : Fault}
    {r : SecretReference} :
    r.check patterns noVault noSecret malformed = .ok () ↔ r.Usable patterns := by
  simp only [check, then_eq_ok, refuse_eq_ok]
  constructor
  · rintro ⟨hvault, hsecret, hpath⟩
    exact ⟨by simpa using hvault, by simpa using hsecret, by simpa using hpath⟩
  · intro h
    exact ⟨by simpa using h.vault, by simpa using h.secret, by simpa using h.path⟩

/-- A service principal under which a cluster can use the cloud. -/
structure ServicePrincipal.Usable (patterns : Patterns) (externalKms : Bool)
    (p : ServicePrincipal) : Prop where
  client : p.clientId ≠ ""
  /-- There is a secret or a reference to one, and not both. -/
  credential : p.secret ≠ "" ↔ p.secretReference = none
  object : externalKms = true → p.objectId ≠ ""
  reference : ∀ r ∈ p.secretReference, r.Usable patterns

theorem ServicePrincipal.check_eq_ok {patterns : Patterns} {orchestrator : String}
    {externalKms : Bool} {p : ServicePrincipal} :
    p.check patterns orchestrator externalKms = .ok () ↔ p.Usable patterns externalKms := by
  simp only [check, then_eq_ok, refuse_eq_ok, checkSome_eq_ok, SecretReference.check_eq_ok]
  have hcredential : (p.secret.isEmpty != p.secretReference.isSome) = false ↔
      (p.secret ≠ "" ↔ p.secretReference = none) := by
    cases p.secretReference <;> simp
  have hobject : (externalKms && p.objectId.isEmpty) = false ↔
      (externalKms = true → p.objectId ≠ "") := by
    cases externalKms <;> simp
  rw [hcredential, hobject]
  constructor
  · rintro ⟨hclient, hcred, hobj, href⟩
    exact ⟨by simpa using hclient, hcred, hobj, href⟩
  · intro h
    exact ⟨by simpa using h.client, h.credential, h.object, h.reference⟩

/-! ## Access to a whole cluster -/

namespace Plan

variable {s : Settings} {p : Plan}

/-- When the service principal is in order, which a cluster with an identity of its own does not
need. -/
theorem checkServicePrincipal_eq_ok :
    p.checkServicePrincipal s = .ok () ↔
      (p.orchestration.runs .kubernetes = true →
        (∀ k ∈ p.orchestration.kubernetes, k.useManagedIdentity = false) →
        ∃ principal ∈ p.servicePrincipal, principal.Usable s.patterns
          (p.orchestration.kubernetes.any (·.enableEncryptionWithExternalKms == some true))) := by
  rw [checkServicePrincipal, checkWhen_eq_ok, Bool.and_eq_true, and_imp]
  refine imp_congr_right fun _ => imp_congr (by simp [Option.any_eq_false]) ?_
  cases p.servicePrincipal with
  | none => simp [ServicePrincipal.checkNeeded]
  | some principal => simp [ServicePrincipal.checkNeeded, ServicePrincipal.check_eq_ok]

/-- When the directory is in order. -/
theorem checkDirectory_eq_ok :
    p.checkDirectory = .ok () ↔
      ∀ d ∈ p.directory, p.orchestration.runs .kubernetes = true ∧ d.check = .ok () := by
  simp only [checkDirectory, checkSome_eq_ok, then_eq_ok, refuse_eq_ok]
  simp

/-- When the account is in order: OpenShift has one with all its parts, the others have none. -/
theorem checkAccount_eq_ok :
    p.checkAccount = .ok () ↔
      if p.orchestration.runs .openShift = true then ∃ a ∈ p.account, a.isComplete = true
      else p.account = none := by
  unfold checkAccount
  split
  · cases p.account <;> simp [refuse_eq_ok]
  · simp [refuse_eq_ok]

/-- When the Windows image is in order. -/
theorem checkWindowsImage_eq_ok :
    p.checkWindowsImage = .ok () ↔
      ∀ w ∈ p.windows, w.imageSourceURL ≠ "" →
        p.orchestration.runs .dcos = true ∨ p.orchestration.runs .kubernetes = true := by
  rw [checkWindowsImage, refuse_eq_ok]
  cases p.windows with
  | none => simp
  | some w => simp [Decidable.or_iff_not_imp_left]

end Plan

end ClusterPlan
