import ClusterPlan.Plan
import ClusterPlan.Shape

/-!
# Plans and documents

The fields of every section of a cluster definition, and the passage between the values of a section
and the type that stands for it. Both directions only rename, so a plan holds exactly what the
values of its document hold.

`Plan.read` reads a plan from a document and `Plan.write` writes it in full: every field under its
name, absent optional sections as null. `Plan.plain?` makes a plan that has been read one for the
rules.
-/

namespace ClusterPlan

variable {τ : Type}

/-! ## Orchestrator -/

namespace Bootstrap

/-- The fields of the section. -/
def fields : Fields :=
  .cons "vmSize" "vm_size" .text <|
  .cons "osDiskSizeGB" "os_disk_size_gb" .int <|
  .cons "oauthEnabled" "oauth_enabled" .flag <|
  .cons "staticIP" "static_ip" .text <|
  .cons "subnet" "subnet" .text .nil

/-- The section with the given values. -/
def ofValues : fields.Values τ → Bootstrap τ
  | (a, b, c, d, e, ()) => ⟨a, b, c, d, e⟩

/-- The values of the section. -/
def toValues (s : Bootstrap τ) : fields.Values τ :=
  (s.vmSize, s.osDiskSizeGB, s.oauthEnabled, s.staticIP, s.subnet, ())

end Bootstrap

namespace Dcos

/-- The fields of the section. -/
def fields : Fields :=
  .cons "dcosBootstrapURL" "dcos_bootstrap_url" .text <|
  .cons "dcosWindowsBootstrapURL" "dcos_windows_bootstrap_url" .text <|
  .cons "dcosRepositoryURL" "dcos_repository_url" .text <|
  .cons "dcosClusterPackageListID" "dcos_cluster_package_list_id" .text <|
  .cons "dcosProviderPackageID" "dcos_provider_package_id" .text <|
  .cons "bootstrapProfile" "bootstrap_profile"
    (.optionalSection "BootstrapProfile" Bootstrap.fields) .nil

/-- The section with the given values. -/
def ofValues : fields.Values τ → Dcos τ
  | (a, b, c, d, e, f, ()) => ⟨a, b, c, d, e, f.map Bootstrap.ofValues⟩

/-- The values of the section. -/
def toValues (s : Dcos τ) : fields.Values τ :=
  (s.bootstrapURL, s.windowsBootstrapURL, s.repositoryURL, s.clusterPackageListID,
    s.providerPackageID, s.bootstrap.map (·.toValues), ())

end Dcos

namespace OpenShift

/-- The fields of the section. -/
def fields : Fields :=
  .cons "clusterUsername" "cluster_username" .text <|
  .cons "clusterPassword" "cluster_password" .text .nil

/-- The section with the given values. -/
def ofValues : fields.Values τ → OpenShift τ
  | (a, b, ()) => ⟨a, b⟩

/-- The values of the section. -/
def toValues (s : OpenShift τ) : fields.Values τ :=
  (s.clusterUsername, s.clusterPassword, ())

end OpenShift

namespace Addon

/-- The fields of the section. -/
def fields : Fields :=
  .cons "name" "name" .text <|
  .cons "enabled" "enabled" .optionalFlag <|
  .cons "config" "config" .texts .nil

/-- The section with the given values. -/
def ofValues : fields.Values τ → Addon τ
  | (a, b, c, ()) => ⟨a, b, c⟩

/-- The values of the section. -/
def toValues (s : Addon τ) : fields.Values τ :=
  (s.name, s.enabled, s.config, ())

end Addon

namespace Kubernetes

/-- The fields of the section. -/
def fields : Fields :=
  .cons "kubernetesImageBase" "kubernetes_image_base" .text <|
  .cons "clusterSubnet" "cluster_subnet" .text <|
  .cons "networkPlugin" "network_plugin" .text <|
  .cons "networkPolicy" "network_policy" .text <|
  .cons "containerRuntime" "container_runtime" .text <|
  .cons "maxPods" "max_pods" .int <|
  .cons "dockerBridgeSubnet" "docker_bridge_subnet" .text <|
  .cons "dnsServiceIP" "dns_service_ip" .text <|
  .cons "serviceCidr" "service_cidr" .text <|
  .cons "useManagedIdentity" "use_managed_identity" .flag <|
  .cons "useInstanceMetadata" "use_instance_metadata" .optionalFlag <|
  .cons "enableRbac" "enable_rbac" .optionalFlag <|
  .cons "enableSecureKubelet" "enable_secure_kubelet" .optionalFlag <|
  .cons "enableAggregatedAPIs" "enable_aggregated_apis" .flag <|
  .cons "enableDataEncryptionAtRest" "enable_data_encryption_at_rest" .optionalFlag <|
  .cons "enableEncryptionWithExternalKms" "enable_encryption_with_external_kms" .optionalFlag <|
  .cons "enablePodSecurityPolicy" "enable_pod_security_policy" .optionalFlag <|
  .cons "etcdEncryptionKey" "etcd_encryption_key" .text <|
  .cons "etcdVersion" "etcd_version" .text <|
  .cons "useCloudControllerManager" "use_cloud_controller_manager" .optionalFlag <|
  .cons "customCcmImage" "custom_ccm_image" .text <|
  .cons "cloudProviderBackoff" "cloud_provider_backoff" .flag <|
  .cons "cloudProviderRateLimit" "cloud_provider_rate_limit" .flag <|
  .cons "addons" "addons" (.sections "KubernetesAddon" Addon.fields) <|
  .cons "kubeletConfig" "kubelet_config" .texts <|
  .cons "controllerManagerConfig" "controller_manager_config" .texts .nil

/-- The section with the given values. -/
def ofValues : fields.Values τ → Kubernetes τ
  | (a, b, c, d, e, f, g, h, i, j, k, l, m, n, o, p, q, r, s, t, u, v, w, x, y, z, ()) =>
    ⟨a, b, c, d, e, f, g, h, i, j, k, l, m, n, o, p, q, r, s, t, u, v, w,
      x.map Addon.ofValues, y, z⟩

/-- The values of the section. -/
def toValues (s : Kubernetes τ) : fields.Values τ :=
  (s.imageBase, s.clusterSubnet, s.networkPlugin, s.networkPolicy, s.containerRuntime, s.maxPods,
    s.dockerBridgeSubnet, s.dnsServiceIP, s.serviceCidr, s.useManagedIdentity,
    s.useInstanceMetadata, s.enableRbac, s.enableSecureKubelet, s.enableAggregatedAPIs,
    s.enableDataEncryptionAtRest, s.enableEncryptionWithExternalKms, s.enablePodSecurityPolicy,
    s.etcdEncryptionKey, s.etcdVersion, s.useCloudControllerManager, s.customCcmImage,
    s.cloudProviderBackoff, s.cloudProviderRateLimit, s.addons.map (·.toValues), s.kubeletConfig,
    s.controllerManagerConfig, ())

/-- The section that a document describes. -/
def read (d : Document) : Checked (Kubernetes Wording) :=
  (d.readSection "KubernetesConfig" fun entries => fields.read entries).map ofValues

end Kubernetes

namespace Orchestration

/-- The fields of the section. -/
def fields : Fields :=
  .cons "orchestratorType" "orchestrator_type" .text <|
  .cons "orchestratorRelease" "orchestrator_release" .text <|
  .cons "orchestratorVersion" "orchestrator_version" .text <|
  .cons "kubernetesConfig" "kubernetes_config"
    (.optionalSection "KubernetesConfig" Kubernetes.fields) <|
  .cons "dcosConfig" "dcos_config" (.optionalSection "DcosConfig" Dcos.fields) <|
  .cons "openShiftConfig" "openshift_config"
    (.optionalSection "OpenShiftConfig" OpenShift.fields) .nil

/-- The section with the given values. -/
def ofValues : fields.Values τ → Orchestration τ
  | (a, b, c, d, e, f, ()) =>
    ⟨a, b, c, d.map Kubernetes.ofValues, e.map Dcos.ofValues, f.map OpenShift.ofValues⟩

/-- The values of the section. -/
def toValues (s : Orchestration τ) : fields.Values τ :=
  (s.type, s.release, s.version, s.kubernetes.map (·.toValues), s.dcos.map (·.toValues),
    s.openShift.map (·.toValues), ())

/-- The section that a document describes. -/
def read (d : Document) : Checked (Orchestration Wording) :=
  (d.readSection "OrchestratorProfile" fun entries => fields.read entries).map ofValues

end Orchestration

/-! ## Machines -/

namespace Image

/-- The fields of the section. -/
def fields : Fields :=
  .cons "name" "name" .text <|
  .cons "resourceGroup" "resource_group" .text .nil

/-- The section with the given values. -/
def ofValues : fields.Values τ → Image τ
  | (a, b, ()) => ⟨a, b⟩

/-- The values of the section. -/
def toValues (s : Image τ) : fields.Values τ :=
  (s.name, s.resourceGroup, ())

end Image

namespace Master

/-- The fields of the section. -/
def fields : Fields :=
  .cons "count" "count" .int <|
  .cons "dnsPrefix" "dns_prefix" .text <|
  .cons "vmSize" "vm_size" .text <|
  .cons "osDiskSizeGB" "os_disk_size_gb" .int <|
  .cons "vnetSubnetID" "vnet_subnet_id" .text <|
  .cons "vnetCidr" "vnet_cidr" .text <|
  .cons "firstConsecutiveStaticIP" "first_consecutive_static_ip" .text <|
  .cons "storageProfile" "storage_profile" .text <|
  .cons "imageReference" "image_reference" (.optionalSection "ImageReference" Image.fields) .nil

/-- The section with the given values. -/
def ofValues : fields.Values τ → Master τ
  | (a, b, c, d, e, f, g, h, i, ()) => ⟨a, b, c, d, e, f, g, h, i.map Image.ofValues⟩

/-- The values of the section. -/
def toValues (s : Master τ) : fields.Values τ :=
  (s.count, s.dnsPrefix, s.vmSize, s.osDiskSizeGB, s.vnetSubnetID, s.vnetCidr,
    s.firstConsecutiveStaticIP, s.storageProfile, s.image.map (·.toValues), ())

/-- The section that a document describes. -/
def read (d : Document) : Checked (Master Wording) :=
  (d.readSection "MasterProfile" fun entries => fields.read entries).map ofValues

end Master

namespace Pool

/-- The fields of the section. -/
def fields : Fields :=
  .cons "name" "name" .text <|
  .cons "count" "count" .int <|
  .cons "vmSize" "vm_size" .text <|
  .cons "osDiskSizeGB" "os_disk_size_gb" .int <|
  .cons "dnsPrefix" "dns_prefix" .text <|
  .cons "osType" "os_type" .text <|
  .cons "ports" "ports" .ints <|
  .cons "availabilityProfile" "availability_profile" .text <|
  .cons "storageProfile" "storage_profile" .text <|
  .cons "diskSizesGB" "disk_sizes_gb" .ints <|
  .cons "vnetSubnetID" "vnet_subnet_id" .text <|
  .cons "imageReference" "image_reference" (.optionalSection "ImageReference" Image.fields) <|
  .cons "role" "role" .text <|
  .cons "customNodeLabels" "custom_node_labels" .texts .nil

/-- The section with the given values. -/
def ofValues : fields.Values τ → Pool τ
  | (a, b, c, d, e, f, g, h, i, j, k, l, m, n, ()) =>
    ⟨a, b, c, d, e, f, g, h, i, j, k, l.map Image.ofValues, m, n⟩

/-- The values of the section. -/
def toValues (s : Pool τ) : fields.Values τ :=
  (s.name, s.count, s.vmSize, s.osDiskSizeGB, s.dnsPrefix, s.osType, s.ports,
    s.availabilityProfile, s.storageProfile, s.diskSizesGB, s.vnetSubnetID,
    s.image.map (·.toValues), s.role, s.nodeLabels, ())

/-- The section that a document describes. -/
def read (d : Document) : Checked (Pool Wording) :=
  (d.readSection "AgentPoolProfile" fun entries => fields.read entries).map ofValues

end Pool

/-! ## Access -/

namespace PublicKey

/-- The fields of the section. -/
def fields : Fields :=
  .cons "keyData" "key_data" .text .nil

/-- The section with the given values. -/
def ofValues : fields.Values τ → PublicKey τ
  | (a, ()) => ⟨a⟩

/-- The values of the section. -/
def toValues (s : PublicKey τ) : fields.Values τ :=
  (s.keyData, ())

end PublicKey

namespace Ssh

/-- The fields of the section. -/
def fields : Fields :=
  .cons "publicKeys" "public_keys" (.sections "PublicKey" PublicKey.fields) .nil

/-- The section with the given values. -/
def ofValues : fields.Values τ → Ssh τ
  | (a, ()) => ⟨a.map PublicKey.ofValues⟩

/-- The values of the section. -/
def toValues (s : Ssh τ) : fields.Values τ :=
  (s.publicKeys.map (·.toValues), ())

end Ssh

namespace Vault

/-- The fields of the section. -/
def fields : Fields :=
  .cons "id" "id" .text .nil

/-- The section with the given values. -/
def ofValues : fields.Values τ → Vault τ
  | (a, ()) => ⟨a⟩

/-- The values of the section. -/
def toValues (s : Vault τ) : fields.Values τ :=
  (s.id, ())

end Vault

namespace VaultCertificate

/-- The fields of the section. -/
def fields : Fields :=
  .cons "certificateUrl" "certificate_url" .text <|
  .cons "certificateStore" "certificate_store" .text .nil

/-- The section with the given values. -/
def ofValues : fields.Values τ → VaultCertificate τ
  | (a, b, ()) => ⟨a, b⟩

/-- The values of the section. -/
def toValues (s : VaultCertificate τ) : fields.Values τ :=
  (s.url, s.store, ())

end VaultCertificate

namespace VaultSecrets

/-- The fields of the section. -/
def fields : Fields :=
  .cons "sourceVault" "source_vault" (.optionalSection "KeyVaultId" Vault.fields) <|
  .cons "vaultCertificates" "vault_certificates"
    (.sections "KeyVaultCertificate" VaultCertificate.fields) .nil

/-- The section with the given values. -/
def ofValues : fields.Values τ → VaultSecrets τ
  | (a, b, ()) => ⟨a.map Vault.ofValues, b.map VaultCertificate.ofValues⟩

/-- The values of the section. -/
def toValues (s : VaultSecrets τ) : fields.Values τ :=
  (s.vault.map (·.toValues), s.certificates.map (·.toValues), ())

/-- The section that a document describes. -/
def read (d : Document) : Checked (VaultSecrets Wording) :=
  (d.readSection "KeyVaultSecrets" fun entries => fields.read entries).map ofValues

end VaultSecrets

namespace LinuxAccess

/-- The fields of the section. -/
def fields : Fields :=
  .cons "adminUsername" "admin_username" .text <|
  .cons "ssh" "ssh" (.section false "SshConfig" Ssh.fields) <|
  .cons "secrets" "secrets" (.sections "KeyVaultSecrets" VaultSecrets.fields) .nil

/-- The section with the given values. -/
def ofValues : fields.Values τ → LinuxAccess τ
  | (a, b, c, ()) => ⟨a, Ssh.ofValues b, c.map VaultSecrets.ofValues⟩

/-- The values of the section. -/
def toValues (s : LinuxAccess τ) : fields.Values τ :=
  (s.adminUsername, s.ssh.toValues, s.secrets.map (·.toValues), ())

/-- The section that a document describes. -/
def read (d : Document) : Checked (LinuxAccess Wording) :=
  (d.readSection "LinuxProfile" fun entries => fields.read entries).map ofValues

end LinuxAccess

namespace WindowsAccess

/-- The fields of the section. -/
def fields : Fields :=
  .cons "adminUsername" "admin_username" .text <|
  .cons "adminPassword" "admin_password" .text <|
  .cons "windowsImageSourceURL" "windows_image_source_url" .text <|
  .cons "secrets" "secrets" (.sections "KeyVaultSecrets" VaultSecrets.fields) .nil

/-- The section with the given values. -/
def ofValues : fields.Values τ → WindowsAccess τ
  | (a, b, c, d, ()) => ⟨a, b, c, d.map VaultSecrets.ofValues⟩

/-- The values of the section. -/
def toValues (s : WindowsAccess τ) : fields.Values τ :=
  (s.adminUsername, s.adminPassword, s.imageSourceURL, s.secrets.map (·.toValues), ())

/-- The section that a document describes. -/
def read (d : Document) : Checked (WindowsAccess Wording) :=
  (d.readSection "WindowsProfile" fun entries => fields.read entries).map ofValues

end WindowsAccess

namespace SecretReference

/-- The fields of the section. -/
def fields : Fields :=
  .cons "vaultID" "vault_id" .text <|
  .cons "secretName" "secret_name" .text <|
  .cons "version" "version" .text .nil

/-- The section with the given values. -/
def ofValues : fields.Values τ → SecretReference τ
  | (a, b, c, ()) => ⟨a, b, c⟩

/-- The values of the section. -/
def toValues (s : SecretReference τ) : fields.Values τ :=
  (s.vaultID, s.secretName, s.version, ())

end SecretReference

namespace ServicePrincipal

/-- The fields of the section. -/
def fields : Fields :=
  .cons "clientId" "client_id" .text <|
  .cons "secret" "secret" .text <|
  .cons "objectId" "object_id" .text <|
  .cons "keyvaultSecretRef" "keyvault_secret_ref"
    (.optionalSection "KeyvaultSecretRef" SecretReference.fields) .nil

/-- The section with the given values. -/
def ofValues : fields.Values τ → ServicePrincipal τ
  | (a, b, c, d, ()) => ⟨a, b, c, d.map SecretReference.ofValues⟩

/-- The values of the section. -/
def toValues (s : ServicePrincipal τ) : fields.Values τ :=
  (s.clientId, s.secret, s.objectId, s.secretReference.map (·.toValues), ())

/-- The section that a document describes. -/
def read (d : Document) : Checked (ServicePrincipal Wording) :=
  (d.readSection "ServicePrincipalProfile" fun entries => fields.read entries).map ofValues

end ServicePrincipal

namespace Directory

/-- The fields of the section. -/
def fields : Fields :=
  .cons "clientAppID" "client_app_id" .text <|
  .cons "serverAppID" "server_app_id" .text <|
  .cons "tenantID" "tenant_id" .text <|
  .cons "adminGroupID" "admin_group_id" .text .nil

/-- The section with the given values. -/
def ofValues : fields.Values τ → Directory τ
  | (a, b, c, d, ()) => ⟨a, b, c, d⟩

/-- The values of the section. -/
def toValues (s : Directory τ) : fields.Values τ :=
  (s.clientAppID, s.serverAppID, s.tenantID, s.adminGroupID, ())

/-- The section that a document describes. -/
def read (d : Document) : Checked (Directory Wording) :=
  (d.readSection "AADProfile" fun entries => fields.read entries).map ofValues

end Directory

namespace Account

/-- The fields of the section. -/
def fields : Fields :=
  .cons "tenantId" "tenant_id" .text <|
  .cons "subscriptionId" "subscription_id" .text <|
  .cons "resourceGroup" "resource_group" .text <|
  .cons "location" "location" .text .nil

/-- The section with the given values. -/
def ofValues : fields.Values τ → Account τ
  | (a, b, c, d, ()) => ⟨a, b, c, d⟩

/-- The values of the section. -/
def toValues (s : Account τ) : fields.Values τ :=
  (s.tenantId, s.subscriptionId, s.resourceGroup, s.location, ())

end Account

namespace Extension

/-- The fields of the section. -/
def fields : Fields :=
  .cons "name" "name" .text <|
  .cons "version" "version" .text <|
  .cons "extensionParameters" "extension_parameters" .text <|
  .cons "parametersKeyvaultSecretRef" "extension_parameters_key_vault_ref"
    (.optionalSection "KeyvaultSecretRef" SecretReference.fields) <|
  .cons "rootURL" "root_url" .text .nil

/-- The section with the given values. -/
def ofValues : fields.Values τ → Extension τ
  | (a, b, c, d, e, ()) => ⟨a, b, c, d.map SecretReference.ofValues, e⟩

/-- The values of the section. -/
def toValues (s : Extension τ) : fields.Values τ :=
  (s.name, s.version, s.parameters, s.parametersReference.map (·.toValues), s.rootURL, ())

end Extension

/-! ## The whole -/

namespace Plan

/-- The sections of a definition. -/
def fields : Fields :=
  .cons "orchestratorProfile" "orchestrator_profile"
    (.section true "OrchestratorProfile" Orchestration.fields) <|
  .cons "masterProfile" "master_profile" (.section true "MasterProfile" Master.fields) <|
  .cons "agentPoolProfiles" "agent_pool_profiles" (.sections "AgentPoolProfile" Pool.fields) <|
  .cons "linuxProfile" "linux_profile" (.section true "LinuxProfile" LinuxAccess.fields) <|
  .cons "windowsProfile" "windows_profile"
    (.optionalSection "WindowsProfile" WindowsAccess.fields) <|
  .cons "servicePrincipalProfile" "service_principal_profile"
    (.optionalSection "ServicePrincipalProfile" ServicePrincipal.fields) <|
  .cons "aadProfile" "aad_profile" (.optionalSection "AADProfile" Directory.fields) <|
  .cons "azProfile" "az_profile" (.optionalSection "AzProfile" Account.fields) <|
  .cons "extensionProfiles" "extension_profiles"
    (.sections "ExtensionProfile" Extension.fields) .nil

/-- The plan with the given values. -/
def ofValues : fields.Values τ → Plan τ
  | (a, b, c, d, e, f, g, h, i, ()) =>
    ⟨Orchestration.ofValues a, Master.ofValues b, c.map Pool.ofValues, LinuxAccess.ofValues d,
      e.map WindowsAccess.ofValues, f.map ServicePrincipal.ofValues, g.map Directory.ofValues,
      h.map Account.ofValues, i.map Extension.ofValues⟩

/-- The values of the plan. -/
def toValues (p : Plan τ) : fields.Values τ :=
  (p.orchestration.toValues, p.master.toValues, p.pools.map (·.toValues), p.linux.toValues,
    p.windows.map (·.toValues), p.servicePrincipal.map (·.toValues), p.directory.map (·.toValues),
    p.account.map (·.toValues), p.extensions.map (·.toValues), ())

/-- A whole definition as a section. -/
def kind : Kind := .section true "Properties" fields

/-- The plan that a document describes. -/
def read (d : Document) : Checked (Plan Wording) :=
  (kind.read d).map ofValues

/-- The document of a plan, with every field under its name. -/
def write (p : Plan Wording) : Document :=
  kind.write p.toValues

/-- The plan with texts of characters, if all of its texts consist of characters. -/
def plain? (p : Plan Wording) : Option Plan :=
  (kind.plain? p.toValues).map ofValues

end Plan

end ClusterPlan
