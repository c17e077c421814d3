import ClusterPlan.TextMap

/-!
# Plans

A plan is a cluster definition after its document has been read: which orchestrator runs the
cluster, which machines it consists of, and who may use them. Choices such as the orchestrator or
the operating system stay the texts that the definition gives, because a definition may name
something that does not exist, and the diagnostic then quotes it. An empty text means that nothing
has been chosen.

The rules work on plans whose texts consist of characters. A document may also hold texts that do
not, and a plan read from it keeps them as they are, so the type of the texts is a parameter.
-/

namespace ClusterPlan

/-! ## Orchestrator -/

/-- The node from which a DC/OS cluster is installed. -/
structure Bootstrap (τ : Type := String) where
  vmSize : τ
  osDiskSizeGB : Int
  oauthEnabled : Bool
  staticIP : τ
  subnet : τ
  deriving DecidableEq, Repr

/-- The settings of a DC/OS cluster. -/
structure Dcos (τ : Type := String) where
  bootstrapURL : τ
  windowsBootstrapURL : τ
  repositoryURL : τ
  clusterPackageListID : τ
  providerPackageID : τ
  bootstrap : Option (Bootstrap τ)
  deriving DecidableEq, Repr

/-- The settings of an OpenShift cluster. -/
structure OpenShift (τ : Type := String) where
  clusterUsername : τ
  clusterPassword : τ
  deriving DecidableEq, Repr

/-- A part of Kubernetes that can be switched on. -/
structure Addon (τ : Type := String) where
  name : τ
  enabled : Option Bool
  config : TextMap τ
  deriving DecidableEq, Repr

/-- The settings of a Kubernetes cluster. -/
structure Kubernetes (τ : Type := String) where
  imageBase : τ
  clusterSubnet : τ
  networkPlugin : τ
  networkPolicy : τ
  containerRuntime : τ
  maxPods : Int
  dockerBridgeSubnet : τ
  dnsServiceIP : τ
  serviceCidr : τ
  useManagedIdentity : Bool
  useInstanceMetadata : Option Bool
  enableRbac : Option Bool
  enableSecureKubelet : Option Bool
  enableAggregatedAPIs : Bool
  enableDataEncryptionAtRest : Option Bool
  enableEncryptionWithExternalKms : Option Bool
  enablePodSecurityPolicy : Option Bool
  etcdEncryptionKey : τ
  etcdVersion : τ
  useCloudControllerManager : Option Bool
  customCcmImage : τ
  cloudProviderBackoff : Bool
  cloudProviderRateLimit : Bool
  addons : List (Addon τ)
  kubeletConfig : TextMap τ
  controllerManagerConfig : TextMap τ
  deriving DecidableEq, Repr

/-- The orchestrator, its version and its settings. -/
structure Orchestration (τ : Type := String) where
  type : τ
  release : τ
  version : τ
  kubernetes : Option (Kubernetes τ)
  dcos : Option (Dcos τ)
  openShift : Option (OpenShift τ)
  deriving DecidableEq, Repr

/-! ## Machines -/

/-- A machine image of one's own. -/
structure Image (τ : Type := String) where
  name : τ
  resourceGroup : τ
  deriving DecidableEq, Repr

/-- The master nodes. -/
structure Master (τ : Type := String) where
  count : Int
  dnsPrefix : τ
  vmSize : τ
  osDiskSizeGB : Int
  vnetSubnetID : τ
  vnetCidr : τ
  firstConsecutiveStaticIP : τ
  storageProfile : τ
  image : Option (Image τ)
  deriving DecidableEq, Repr

/-- A pool of agent nodes. -/
structure Pool (τ : Type := String) where
  name : τ
  count : Int
  vmSize : τ
  osDiskSizeGB : Int
  dnsPrefix : τ
  osType : τ
  ports : List Int
  availabilityProfile : τ
  storageProfile : τ
  diskSizesGB : List Int
  vnetSubnetID : τ
  image : Option (Image τ)
  role : τ
  nodeLabels : TextMap τ
  deriving DecidableEq, Repr

/-! ## Access -/

/-- A key that may log in. -/
structure PublicKey (τ : Type := String) where
  keyData : τ
  deriving DecidableEq, Repr

/-- The keys that may log in. -/
structure Ssh (τ : Type := String) where
  publicKeys : List (PublicKey τ)
  deriving DecidableEq, Repr

/-- A key vault by its resource path. -/
structure Vault (τ : Type := String) where
  id : τ
  deriving DecidableEq, Repr

/-- A certificate in a key vault and the store that it is put into. -/
structure VaultCertificate (τ : Type := String) where
  url : τ
  store : τ
  deriving DecidableEq, Repr

/-- The certificates to be taken from a key vault. -/
structure VaultSecrets (τ : Type := String) where
  vault : Option (Vault τ)
  certificates : List (VaultCertificate τ)
  deriving DecidableEq, Repr

/-- The administrator of the Linux nodes. -/
structure LinuxAccess (τ : Type := String) where
  adminUsername : τ
  ssh : Ssh τ
  secrets : List (VaultSecrets τ)
  deriving DecidableEq, Repr

/-- The administrator of the Windows nodes. -/
structure WindowsAccess (τ : Type := String) where
  adminUsername : τ
  adminPassword : τ
  imageSourceURL : τ
  secrets : List (VaultSecrets τ)
  deriving DecidableEq, Repr

/-- A secret in a key vault. -/
structure SecretReference (τ : Type := String) where
  vaultID : τ
  secretName : τ
  version : τ
  deriving DecidableEq, Repr

/-- The identity under which the cluster uses the cloud. -/
structure ServicePrincipal (τ : Type := String) where
  clientId : τ
  secret : τ
  objectId : τ
  secretReference : Option (SecretReference τ)
  deriving DecidableEq, Repr

/-- The directory whose users may use the cluster. -/
structure Directory (τ : Type := String) where
  clientAppID : τ
  serverAppID : τ
  tenantID : τ
  adminGroupID : τ
  deriving DecidableEq, Repr

/-- The place of the cluster in a cloud account. -/
structure Account (τ : Type := String) where
  tenantId : τ
  subscriptionId : τ
  resourceGroup : τ
  location : τ
  deriving DecidableEq, Repr

/-- An extension to be installed on the machines. -/
structure Extension (τ : Type := String) where
  name : τ
  version : τ
  parameters : τ
  parametersReference : Option (SecretReference τ)
  rootURL : τ
  deriving DecidableEq, Repr

/-! ## The whole -/

/-- A cluster definition. -/
structure Plan (τ : Type := String) where
  orchestration : Orchestration τ
  master : Master τ
  pools : List (Pool τ)
  linux : LinuxAccess τ
  windows : Option (WindowsAccess τ)
  servicePrincipal : Option (ServicePrincipal τ)
  directory : Option (Directory τ)
  account : Option (Account τ)
  extensions : List (Extension τ)
  deriving DecidableEq, Repr

namespace Dcos

/-- No setting has been given. -/
def isEmpty (d : Dcos) : Bool :=
  d.bootstrapURL.isEmpty && d.windowsBootstrapURL.isEmpty && d.repositoryURL.isEmpty &&
    d.clusterPackageListID.isEmpty && d.providerPackageID.isEmpty && d.bootstrap.isNone

end Dcos

namespace Addon

/-- Switched on explicitly. -/
def isEnabled (a : Addon) : Bool := a.enabled == some true

end Addon

namespace Master

/-- The master nodes join a virtual network of one's own. -/
def isCustomVnet (m : Master) : Bool := !m.vnetSubnetID.isEmpty

end Master

namespace Pool

/-- The pool joins a virtual network of one's own. -/
def isCustomVnet (p : Pool) : Bool := !p.vnetSubnetID.isEmpty

/-- The nodes run Windows. -/
def isWindows (p : Pool) : Bool := p.osType == "Windows"

/-- The machines are grouped in availability sets. -/
def isAvailabilitySet (p : Pool) : Bool := p.availabilityProfile == "AvailabilitySet"

/-- The machines are grouped in scale sets. -/
def isScaleSet (p : Pool) : Bool := p.availabilityProfile == "VirtualMachineScaleSets"

end Pool

namespace Plan

/-- Some pool runs Windows. -/
def hasWindows (p : Plan) : Bool := p.pools.any (·.isWindows)

end Plan

end ClusterPlan
