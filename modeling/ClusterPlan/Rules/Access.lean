import ClusterPlan.Identifier.Uuid
import ClusterPlan.Rules.Name
import ClusterPlan.Rules.Release

/-!
# Access

Who may use the machines and on whose behalf the cluster acts: administrators, certificates from key
vaults, the service principal, the directory, the cloud account, and the extensions with their
secrets.
-/

namespace ClusterPlan

open ClusterPlan.Identifier

/-! ## Certificates -/

/-- The address of a certificate is well-formed. -/
def checkCertificateAddress (url : String) : Verdict :=
  match checkLocator url with
  | .ok () => .ok ()
  | .error fault => .error (.malformed (.certificateAddress fault))

/-- A certificate has a well-formed address and, if that is asked for, a store. -/
def VaultCertificate.check (needsStore : Bool) (c : VaultCertificate) : Verdict := do
  checkCertificateAddress c.url
  refuse (needsStore && c.store.isEmpty) (.missing .certificateStore)

/-- The certificates of a key vault, of which there is at least one. -/
def VaultSecrets.check (needsStore : Bool) (v : VaultSecrets) : Verdict := do
  refuse v.certificates.isEmpty (.missing .certificates)
  refuse v.vault.isNone (.missing .sourceVault)
  refuse (v.vault.any (·.id.isEmpty)) (.missing .sourceVaultID)
  checkEach (VaultCertificate.check needsStore) v.certificates

/-! ## Administrators -/

/-- The first key of the Linux administrator is not empty, and the certificates are in order. -/
def LinuxAccess.check (l : LinuxAccess) : Verdict := do
  refuse (!(l.ssh.publicKeys.head?.any fun key => !key.keyData.isEmpty)) (.missing .keyData)
  checkEach (VaultSecrets.check false) l.secrets

/-- The Windows administrator has a name and a password, and the certificates have a store. -/
def WindowsAccess.check (w : WindowsAccess) : Verdict := do
  refuse w.adminUsername.isEmpty (.missing .windowsUsername)
  refuse w.adminPassword.isEmpty (.missing .windowsPassword)
  checkEach (VaultSecrets.check true) w.secrets

/-! ## Identities -/

/-- The applications of a directory have identifiers; tenant and group may be left out. -/
def Directory.check (d : Directory) : Verdict := do
  refuse (!isUuid d.clientAppID) (.malformed (.clientAppID d.clientAppID))
  refuse (!isUuid d.serverAppID) (.malformed (.serverAppID d.serverAppID))
  refuse (!d.tenantID.isEmpty && !isUuid d.tenantID) (.malformed (.tenantID d.tenantID))
  refuse (!d.adminGroupID.isEmpty && !isUuid d.adminGroupID)
    (.malformed (.adminGroupID d.adminGroupID))

/-- A reference to a secret names the vault and the secret, and the vault by its path. The three
faults are those of the section that holds the reference. -/
def SecretReference.check (patterns : Patterns) (noVault noSecret malformed : Fault)
    (r : SecretReference) : Verdict := do
  refuse r.vaultID.isEmpty noVault
  refuse r.secretName.isEmpty noSecret
  refuse (!patterns.keyVaultPath r.vaultID) malformed

/-- The service principal has an identifier and either a secret or a reference to one. -/
def ServicePrincipal.check (patterns : Patterns) (orchestrator : String) (externalKms : Bool)
    (p : ServicePrincipal) : Verdict := do
  refuse p.clientId.isEmpty (.missing (.principalClient orchestrator))
  refuse (p.secret.isEmpty != p.secretReference.isSome)
    (.conflict (.principalCredential orchestrator))
  refuse (externalKms && p.objectId.isEmpty) (.missing (.principalObject orchestrator))
  checkSome (SecretReference.check patterns (.missing (.principalVault orchestrator))
      (.missing (.principalSecret orchestrator)) (.malformed .principalReference))
    p.secretReference

/-- The service principal that a cluster without an identity of its own needs. -/
def ServicePrincipal.checkNeeded (orchestrator : String) (k : Option Kubernetes)
    (p : Option ServicePrincipal) (patterns : Patterns := .standard) : Verdict :=
  match p with
  | none => .error (.missing (.principal orchestrator))
  | some p =>
    p.check patterns orchestrator (k.any (·.enableEncryptionWithExternalKms == some true))

/-- The secret of an extension. -/
def Extension.check (patterns : Patterns) (e : Extension) : Verdict :=
  checkSome (SecretReference.check patterns (.missing (.extensionVault e.name))
      (.missing (.extensionSecret e.name)) (.malformed (.extensionReference e.name)))
    e.parametersReference

/-- An account with all its parts. -/
def Account.isComplete (a : Account) : Bool :=
  !a.location.isEmpty && !a.resourceGroup.isEmpty && !a.subscriptionId.isEmpty &&
    !a.tenantId.isEmpty

/-! ## Access to a whole cluster -/

namespace Plan

/-- Kubernetes needs a service principal, unless it has an identity of its own. -/
def checkServicePrincipal (s : Settings) (p : Plan) : Verdict :=
  checkWhen
    (p.orchestration.runs .kubernetes && !p.orchestration.kubernetes.any (·.useManagedIdentity))
    (ServicePrincipal.checkNeeded Orchestrator.kubernetes.name p.orchestration.kubernetes
      p.servicePrincipal s.patterns)

/-- Only Kubernetes works with a directory. -/
def checkDirectory (p : Plan) : Verdict :=
  checkSome (fun d => do
      refuse (!p.orchestration.runs .kubernetes) (.conflict .directory)
      d.check)
    p.directory

/-- OpenShift needs an account, and the others must not have one. -/
def checkAccount (p : Plan) : Verdict :=
  if p.orchestration.runs .openShift then
    refuse (!p.account.any (·.isComplete)) (.missing .account)
  else refuse p.account.isSome (.conflict .account)

/-- The secrets of the extensions. -/
def checkExtensions (s : Settings) (p : Plan) : Verdict :=
  checkEach (Extension.check s.patterns) p.extensions

/-- Only DC/OS and Kubernetes work with a Windows image of one's own. -/
def checkWindowsImage (p : Plan) : Verdict :=
  refuse ((p.windows.any fun w => !w.imageSourceURL.isEmpty) &&
      !(p.orchestration.runs .dcos || p.orchestration.runs .kubernetes))
    (.conflict .windowsImage)

end Plan

end ClusterPlan
