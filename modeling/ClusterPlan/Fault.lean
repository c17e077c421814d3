import ClusterPlan.Binary64.Decimal
import ClusterPlan.Duration
import ClusterPlan.Identifier.Locator

/-!
# Faults of a plan

Why a plan is rejected. Every rule has a cause of its own that holds what the diagnostic quotes, and
the causes fall into four kinds: values that are malformed by themselves, values that do not go
together, values that are missing, and versions that are not supported.

Three faults belong to no rule: a version may have a number too long to be read, the last address
has no successor, and a pattern may divide the path of a subnet into other than four parts. No
diagnostic states them, nor a cause whose diagnostic would quote an integer too long to be written:
their kind is `unspeakable` (`Fault.kind`).
-/

namespace ClusterPlan

open ClusterPlan.Text ClusterPlan.Identifier

/-- A value that is wrong by itself. -/
inductive Malformed where
  | notOneOf (path : String) (allowed : List Int) (value : Int)
  | outOfRange (path : String) (low high value : Int)
  | diskCount (path : String) (count : Nat)
  | keyCount (count : Nat)
  | poolName (name : String)
  | osType
  | dnsName (name : String)
  | duplicatePort (pool : String) (port : Int)
  | labelValue (value : String)
  | labelKey (key : String)
  | labelDomain (key : String) (limit : Int)
  | etcdVersion (version : String) (valid : List String)
  | subnetPath (path : String)
  | version (version : String)
  | minimum (minimum version : String)
  | bootstrapAddress (address : String)
  | etcdKey
  | clusterSubnet (subnet : String)
  | dockerBridge (subnet : String)
  | maxPods (count least : Int)
  | duration (option value : String)
  | nonMasquerade (network : String)
  | dnsServiceAddress (address : String)
  | serviceNetwork (network : String)
  | networkPlugin (name : String)
  | networkPolicy (name : String)
  | containerRuntime (name : String)
  | availability (profile pool : String)
  | certificateAddress (fault : LocatorFault)
  | clientAppID (id : String)
  | serverAppID (id : String)
  | tenantID (id : String)
  | adminGroupID (id : String)
  | principalReference
  | extensionReference (extension : String)
  | firstStaticAddress (address : String)
  | vnetNetwork (network : String)
  deriving DecidableEq, Repr

/-- Values that do not go together. -/
inductive Conflict where
  | poolNames (name : String)
  | kubernetesSection
  | openShiftSection
  | dcosSection
  /-- A version below a minimum, with a diagnostic that is given. -/
  | belowMinimum (diagnostic : String)
  | aggregatedAPIs (minimum version : String)
  | aggregatedAPIsWithoutRbac
  | dataEncryption (minimum version : String)
  | externalKms (minimum version : String)
  | podSecurityWithoutRbac
  | podSecurity (minimum version : String)
  | clusterSubnetSize (subnet : String)
  | retries (grace update : Duration) (factor : Int)
  | backoff (version : String)
  | rateLimit (version : String)
  | dnsServiceOutside (address network : String)
  | dnsServiceLast (address network : String)
  | dnsServiceNetwork (address network : String)
  | dnsServiceFirst (address network : String)
  | cloudController (version : String)
  | openShiftMasters
  | kubernetesDnsPrefix
  | kubernetesPorts
  | portsWithoutPrefix (orchestrator : String)
  | scaleSetDisks
  | policyOnWindows (policy : String)
  | policyWithPlugin (policy plugin : String)
  | runtimeOnWindows (runtime : String)
  | autoscaler
  | openShiftStorage
  | openShiftAvailability
  | role (role orchestrator : String)
  | nodeLabels
  | scaleSets (minimum version : String)
  | scaleSetMetadata (minimum : String)
  | scaleSetStorage
  | mixedAvailability
  | windows (orchestrator : String)
  | principalCredential (orchestrator : String)
  | mixedSubnets
  | severalNetworks
  | directory
  | account
  | windowsImage
  deriving DecidableEq, Repr

/-- A value that the context asks for. -/
inductive Missing where
  | field (path : String)
  | value (label : String)
  | certificateStore
  | imageName
  | imageGroup
  | openShiftCredentials
  | dnsServiceAddress
  | serviceNetwork
  | storageProfile
  | availabilityProfile
  | certificates
  | sourceVault
  | sourceVaultID
  | keyData
  | windowsUsername
  | windowsPassword
  | principal (orchestrator : String)
  | principalClient (orchestrator : String)
  | principalObject (orchestrator : String)
  | principalVault (orchestrator : String)
  | principalSecret (orchestrator : String)
  | windows
  | account
  | extensionVault (extension : String)
  | extensionSecret (extension : String)
  deriving DecidableEq, Repr

/-- A version or an orchestrator that is not supported. -/
inductive Unsupported where
  | orchestrator (name : String)
  | request (orchestrator release version : String)
  | openShift
  | windows (orchestrator version : String)
  deriving DecidableEq, Repr

/-- Why a plan is rejected. -/
inductive Fault where
  | malformed (cause : Malformed)
  | conflict (cause : Conflict)
  | missing (cause : Missing)
  | unsupported (cause : Unsupported)
  /-- A version has a number too long to be read. -/
  | overlongVersion
  /-- The successor of the last address is asked for. -/
  | pastLastAddress
  /-- The path of a subnet is divided into more or fewer than four parts. -/
  | subnetParts
  deriving DecidableEq, Repr

/-- The outcome of a rule. -/
abbrev Verdict := Except Fault Unit

/-! ## Kinds -/

/-- The kinds of fault. -/
inductive FaultKind where
  | malformed
  | conflict
  | missing
  | unsupported
  /-- A fault that no diagnostic can state. -/
  | unspeakable
  deriving DecidableEq, Repr

/-- The integers that a diagnostic quotes. -/
def Malformed.quoted : Malformed → List Int
  | notOneOf _ allowed value => value :: allowed
  | outOfRange _ low high value => [low, high, value]
  | duplicatePort _ port => [port]
  | labelDomain _ limit => [limit]
  | maxPods count least => [count, least]
  | _ => []

/-- The integers that a diagnostic quotes. -/
def Conflict.quoted : Conflict → List Int
  | retries _ _ factor => [factor]
  | _ => []

/-- The kind of a fault. -/
def Fault.kind : Fault → FaultKind
  | malformed cause => if cause.quoted.all Numeral.isWritable then .malformed else .unspeakable
  | conflict cause => if cause.quoted.all Numeral.isWritable then .conflict else .unspeakable
  | missing _ => .missing
  | unsupported _ => .unsupported
  | overlongVersion => .unspeakable
  | pastLastAddress => .unspeakable
  | subnetParts => .unspeakable

/-! ## Diagnostics -/

/-- The greatest number of data disks of a machine. -/
def maxDataDisks : Nat := 4

/-- The least number of bits that a cluster subnet leaves to its nodes. -/
def minHostBits : Nat := 9

/-- The diagnostic of a malformed value. -/
def Malformed.message : Malformed → String
  | notOneOf path allowed value =>
    let choices := ", ".intercalate (allowed.map toString)
    s!"{path} must be one of [{choices}], got {value}"
  | outOfRange path low high value => s!"{path} must be between {low} and {high}, got {value}"
  | diskCount path count =>
    s!"{path}.diskSizesGB must have at most {maxDataDisks} entries, got {count}"
  | keyCount count => s!"linuxProfile.ssh.publicKeys must contain exactly one key, got {count}"
  | poolName name =>
    s!"pool name '{name}' is invalid. A pool name must start with a lowercase " ++
      "letter, have max length of 12, and only have characters a-z0-9"
  | osType => "AgentPoolProfile.osType must be either Linux or Windows"
  | dnsName name =>
    s!"DNS name '{name}' is invalid. The DNS name must contain between 3 and 45 " ++
      "characters.  The name can contain only letters, numbers, and hyphens.  The name " ++
      "must start with a letter and must end with a letter or a number " ++
      s!"(length was {name.length})"
  | duplicatePort pool port =>
    s!"agent profile '{pool}' has duplicate port '{port}', ports must be unique"
  | labelValue value =>
    s!"Label value '{value}' is invalid. Valid label values must be 63 characters or " ++
      "less and must be empty or begin and end with an alphanumeric character " ++
      "([a-z0-9A-Z]) with dashes (-), underscores (_), dots (.), and alphanumerics between"
  | labelKey key =>
    s!"Label key '{key}' is invalid. Valid label keys have two segments: an optional " ++
      "prefix and name, separated by a slash (/). The name segment is required and must " ++
      "be 63 characters or less, beginning and ending with an alphanumeric character " ++
      "([a-z0-9A-Z]) with dashes (-), underscores (_), dots (.), and alphanumerics " ++
      "between. The prefix is optional. If specified, the prefix must be a DNS subdomain: " ++
      "a series of DNS labels separated by dots (.), not longer than 253 characters in " ++
      "total, followed by a slash (/)"
  | labelDomain key limit =>
    s!"Label key prefix '{key}' is invalid. If specified, the prefix must be no longer " ++
      s!"than {limit} characters in total"
  | etcdVersion text valid =>
    let choices := " ".intercalate valid
    s!"Invalid etcd version({text}), valid versions are [{choices}]"
  | subnetPath path =>
    s!"vnetSubnetID '{path}' is invalid. Expected " ++
      "/subscriptions/<id>/resourceGroups/<name>/providers/Microsoft.Network/" ++
      "virtualNetworks/<name>/subnets/<name>"
  | version text => s!"could not validate version {text}"
  | minimum least text =>
    s!"could not apply version constraint < {least} against version {text}"
  | bootstrapAddress address =>
    s!"DcosConfig.BootstrapProfile.StaticIP '{address}' is an invalid IP address"
  | etcdKey =>
    "etcdEncryptionKey must be base64 encoded. Please provide a valid base64 " ++
      "encoded value or leave the etcdEncryptionKey empty to auto-generate the value"
  | clusterSubnet subnet =>
    s!"OrchestratorProfile.KubernetesConfig.ClusterSubnet '{subnet}' is an invalid subnet"
  | dockerBridge subnet =>
    s!"OrchestratorProfile.KubernetesConfig.DockerBridgeSubnet '{subnet}' is an invalid subnet"
  | maxPods count least =>
    s!"OrchestratorProfile.KubernetesConfig.MaxPods '{count}' must be at least {least}"
  | duration option value => s!"{option} '{value}' is not a valid duration"
  | nonMasquerade network =>
    s!"--non-masquerade-cidr kubelet config '{network}' is an invalid CIDR string"
  | dnsServiceAddress address =>
    s!"OrchestratorProfile.KubernetesConfig.DNSServiceIP '{address}' is an invalid IP address"
  | serviceNetwork network =>
    s!"OrchestratorProfile.KubernetesConfig.ServiceCidr '{network}' is an invalid CIDR subnet"
  | networkPlugin name => s!"unknown networkPlugin '{name}' specified"
  | networkPolicy name => s!"unknown networkPolicy '{name}' specified"
  | containerRuntime name => s!"unknown containerRuntime \"{name}\" specified"
  | availability profile pool =>
    s!"unknown availability profile type '{profile}' for agent pool '{pool}'.  " ++
      "Specify either AvailabilitySet, or VirtualMachineScaleSets"
  | certificateAddress fault =>
    s!"Certificate url was invalid. received error {fault.message}"
  | clientAppID id => s!"clientAppID '{id}' is invalid"
  | serverAppID id => s!"serverAppID '{id}' is invalid"
  | tenantID id => s!"tenantID '{id}' is invalid"
  | adminGroupID id => s!"adminGroupID '{id}' is invalid"
  | principalReference =>
    "service principal client keyvault secret reference is of incorrect format"
  | extensionReference extension =>
    s!"Extension {extension}'s keyvault secret reference is of incorrect format"
  | firstStaticAddress address =>
    "MasterProfile.FirstConsecutiveStaticIP (with VNET Subnet specification) " ++
      s!"'{address}' is an invalid IP address"
  | vnetNetwork network =>
    s!"MasterProfile.VnetCidr '{network}' contains invalid cidr notation"

/-- The diagnostic of values that do not go together. -/
def Conflict.message : Conflict → String
  | poolNames name =>
    s!"profile name '{name}' already exists, profile names must be unique across pools"
  | kubernetesSection =>
    "KubernetesConfig can be specified only when OrchestratorType is Kubernetes or OpenShift"
  | openShiftSection =>
    "OpenShiftConfig can be specified only when OrchestratorType is OpenShift"
  | dcosSection => "DcosConfig can be specified only when OrchestratorType is DCOS"
  | belowMinimum diagnostic => diagnostic
  | aggregatedAPIs minimum version =>
    s!"enableAggregatedAPIs is only available in Kubernetes version {minimum} or greater; " ++
      s!"unable to validate for Kubernetes version {version}"
  | aggregatedAPIsWithoutRbac =>
    "enableAggregatedAPIs requires the enableRbac feature as a prerequisite"
  | dataEncryption minimum version =>
    s!"enableDataEncryptionAtRest is only available in Kubernetes version {minimum} or " ++
      s!"greater; unable to validate for Kubernetes version {version}"
  | externalKms minimum version =>
    s!"enableEncryptionWithExternalKms is only available in Kubernetes version {minimum} or " ++
      s!"greater; unable to validate for Kubernetes version {version}"
  | podSecurityWithoutRbac =>
    "enablePodSecurityPolicy requires the enableRbac feature as a prerequisite"
  | podSecurity minimum version =>
    s!"enablePodSecurityPolicy is only supported for Kubernetes version {minimum} or " ++
      s!"greater; unable to validate for Kubernetes version {version}"
  | clusterSubnetSize subnet =>
    s!"OrchestratorProfile.KubernetesConfig.ClusterSubnet '{subnet}' " ++
      s!"must reserve at least {minHostBits} bits for nodes"
  | retries grace update factor =>
    s!"--node-monitor-grace-period({grace.seconds.fixed 6})s must be larger than " ++
      s!"nodeStatusUpdateFrequency({update.seconds.fixed 6})s by at least a factor of {factor}"
  | backoff version =>
    s!"cloudprovider backoff functionality not available in kubernetes version {version}"
  | rateLimit version =>
    s!"cloudprovider rate limiting functionality not available in kubernetes version {version}"
  | dnsServiceOutside address network =>
    s!"OrchestratorProfile.KubernetesConfig.DNSServiceIP '{address}' " ++
      s!"is not within the ServiceCidr '{network}'"
  | dnsServiceLast address network =>
    s!"OrchestratorProfile.KubernetesConfig.DNSServiceIP '{address}' " ++
      s!"cannot be the broadcast address of ServiceCidr '{network}'"
  | dnsServiceNetwork address network =>
    s!"OrchestratorProfile.KubernetesConfig.DNSServiceIP '{address}' " ++
      s!"cannot be the network address of ServiceCidr '{network}'"
  | dnsServiceFirst address network =>
    s!"OrchestratorProfile.KubernetesConfig.DNSServiceIP '{address}' " ++
      s!"cannot be the first IP of ServiceCidr '{network}'"
  | cloudController version =>
    "OrchestratorProfile.KubernetesConfig.UseCloudControllerManager and " ++
      "OrchestratorProfile.KubernetesConfig.CustomCcmImage not available in " ++
      s!"kubernetes version {version}"
  | openShiftMasters => "openshift can only deployed with one master"
  | kubernetesDnsPrefix => "AgentPoolProfile.DNSPrefix must be empty for Kubernetes"
  | kubernetesPorts => "AgentPoolProfile.Ports must be empty for Kubernetes"
  | portsWithoutPrefix orchestrator =>
    "AgentPoolProfile.Ports must be empty when AgentPoolProfile.DNSPrefix is empty " ++
      s!"for Orchestrator: {orchestrator}"
  | scaleSetDisks =>
    "VirtualMachineScaleSets does not support storage account attached disks.  Instead " ++
      "specify 'StorageAccount': 'ManagedDisks' or specify AvailabilityProfile " ++
      "'AvailabilitySet'"
  | policyOnWindows policy => s!"networkPolicy '{policy}' is not supporting windows agents"
  | policyWithPlugin policy plugin =>
    s!"networkPolicy '{policy}' is not supported with networkPlugin '{plugin}'"
  | runtimeOnWindows runtime =>
    s!"containerRuntime \"{runtime}\" is not supporting windows agents"
  | autoscaler =>
    "Cluster Autoscaler add-on can only be used with VirtualMachineScaleSets. " ++
      "Please specify \"availabilityProfile\": \"VirtualMachineScaleSets\""
  | openShiftStorage => "OpenShift orchestrator supports only ManagedDisks"
  | openShiftAvailability =>
    "Only AvailabilityProfile: AvailabilitySet is supported for Orchestrator 'OpenShift'"
  | role name orchestrator =>
    s!"Role \"{name}\" is not supported for Orchestrator {orchestrator}"
  | nodeLabels => "Agent Type attributes are only supported for DCOS and Kubernetes"
  | scaleSets minimum version =>
    s!"VirtualMachineScaleSets are only available in Kubernetes version {minimum} or " ++
      s!"greater; unable to validate for Kubernetes version {version}"
  | scaleSetMetadata minimum =>
    "VirtualMachineScaleSets with instance metadata is supported for Kubernetes version " ++
      s!"{minimum} or greater. Please set \"useInstanceMetadata\": false in " ++
      "\"kubernetesConfig\""
  | scaleSetStorage =>
    "VirtualMachineScaleSets does not support StorageAccount disks.  Please specify " ++
      "\"storageProfile\": \"ManagedDisks\" (recommended) or \"availabilityProfile\": " ++
      "\"AvailabilitySet\""
  | mixedAvailability =>
    "mixed mode availability profiles are not allowed. Please set either " ++
      "VirtualMachineScaleSets or AvailabilitySet in availabilityProfile for all agent pools"
  | windows orchestrator => s!"Orchestrator {orchestrator} does not support Windows"
  | principalCredential orchestrator =>
    "either the service principal client secret or keyvault secret reference must be " ++
      s!"specified with Orchestrator {orchestrator}"
  | mixedSubnets =>
    "Multiple VNET Subnet configurations specified.  The master profile and each " ++
      "agent pool profile must all specify a custom VNET Subnet, or none at all"
  | severalNetworks =>
    "Multiple VNETS specified.  The master profile and each agent pool must " ++
      "reference the same VNET (but it is ok to reference different subnets on that VNET)"
  | directory => "'aadProfile' is only supported by orchestrator 'Kubernetes'"
  | account => "'azProfile' is only supported by orchestrator 'OpenShift'"
  | windowsImage =>
    "Windows Custom Images are only supported if the Orchestrator Type is DCOS or Kubernetes"

/-- The diagnostic of a missing value. -/
def Missing.message : Missing → String
  | field path => s!"missing {path}"
  | value label => s!"{label} must be a non-empty value"
  | certificateStore =>
    "KeyVaultCertificate.CertificateStore must be a non-empty value for certificates in a " ++
      "WindowsProfile"
  | imageName => "imageName needs to be specified when imageResourceGroup is provided"
  | imageGroup => "imageResourceGroup needs to be specified when imageName is provided"
  | openShiftCredentials => "ClusterUsername and ClusterPassword must both be specified"
  | dnsServiceAddress =>
    "OrchestratorProfile.KubernetesConfig.DNSServiceIP must be specified when ServiceCidr is"
  | serviceNetwork =>
    "OrchestratorProfile.KubernetesConfig.ServiceCidr must be specified when DNSServiceIP is"
  | storageProfile =>
    "property 'StorageProfile' must be set to either 'StorageAccount' or 'ManagedDisks' when " ++
      "attaching disks"
  | availabilityProfile =>
    "property 'AvailabilityProfile' must be set to either 'VirtualMachineScaleSets' or " ++
      "'AvailabilitySet' when attaching disks"
  | certificates => "Invalid KeyVaultSecrets must have no empty VaultCertificates"
  | sourceVault => "missing SourceVault in KeyVaultSecrets"
  | sourceVaultID => "KeyVaultSecrets must have a SourceVault.ID"
  | keyData => "KeyData in LinuxProfile.SSH.PublicKeys cannot be empty string"
  | windowsUsername =>
    "WindowsProfile.AdminUsername is required, when agent pool specifies windows"
  | windowsPassword =>
    "WindowsProfile.AdminPassword is required, when agent pool specifies windows"
  | principal orchestrator =>
    s!"ServicePrincipalProfile must be specified with Orchestrator {orchestrator}"
  | principalClient orchestrator =>
    s!"the service principal client ID must be specified with Orchestrator {orchestrator}"
  | principalObject orchestrator =>
    s!"the service principal object ID must be specified with Orchestrator {orchestrator} " ++
      "when enableEncryptionWithExternalKms is true"
  | principalVault orchestrator =>
    "the Keyvault ID must be specified for the Service Principle with " ++
      s!"Orchestrator {orchestrator}"
  | principalSecret orchestrator =>
    "the Keyvault Secret must be specified for the Service Principle with " ++
      s!"Orchestrator {orchestrator}"
  | windows =>
    "WindowsProfile is required when the cluster definition contains Windows agent pool(s)"
  | account => "'azProfile' must be supplied in full for orchestrator 'OpenShift'"
  | extensionVault extension => s!"the Keyvault ID must be specified for Extension {extension}"
  | extensionSecret extension =>
    s!"the Keyvault Secret must be specified for Extension {extension}"

/-- The diagnostic of something that is not supported. -/
def Unsupported.message : Unsupported → String
  | orchestrator name => s!"OrchestratorProfile has unknown orchestrator: {name}"
  | request name release version =>
    "the following user supplied OrchestratorProfile configuration is not supported: " ++
      s!"OrchestratorType: {name}, OrchestratorRelease: {release}, " ++
      s!"OrchestratorVersion: {version}. Please check supported Release or Version for this " ++
      "build"
  | openShift =>
    "OrchestratorProfile is not able to be rationalized, check supported Release or Version"
  | windows name version =>
    s!"Orchestrator {name} version {version} does not support Windows"

/-- The diagnostic of a fault, which is empty where none can be stated. -/
def Fault.message : Fault → String
  | malformed cause => cause.message
  | conflict cause => cause.message
  | missing cause => cause.message
  | unsupported cause => cause.message
  | overlongVersion => ""
  | pastLastAddress => ""
  | subnetParts => ""

/-! ## Rules -/

/-- A rule that is broken under a condition. -/
def refuse (broken : Bool) (fault : Fault) : Verdict :=
  if broken then .error fault else .ok ()

/-- A rule that holds under a condition only. -/
def checkWhen (condition : Bool) (rule : Verdict) : Verdict :=
  if condition then rule else .ok ()

/-- A rule for a value, if there is one. -/
def checkSome {α : Type} (rule : α → Verdict) : Option α → Verdict
  | some a => rule a
  | none => .ok ()

/-- A rule for every member of a list, in order. -/
def checkEach {α : Type} (rule : α → Verdict) : List α → Verdict
  | [] => .ok ()
  | a :: as => do
    rule a
    checkEach rule as

theorem refuse_eq_ok {broken : Bool} {fault : Fault} :
    refuse broken fault = .ok () ↔ broken = false := by
  cases broken <;> simp [refuse]

theorem checkWhen_eq_ok {condition : Bool} {rule : Verdict} :
    checkWhen condition rule = .ok () ↔ (condition = true → rule = .ok ()) := by
  cases condition <;> simp [checkWhen]

theorem checkSome_eq_ok {α : Type} {rule : α → Verdict} {value : Option α} :
    checkSome rule value = .ok () ↔ ∀ a, value = some a → rule a = .ok () := by
  cases value <;> simp [checkSome]

theorem then_eq_ok {first second : Verdict} :
    (do first; second) = .ok () ↔ first = .ok () ∧ second = .ok () := by
  cases first <;> simp [bind, Except.bind]

theorem checkEach_eq_ok {α : Type} {rule : α → Verdict} {as : List α} :
    checkEach rule as = .ok () ↔ ∀ a ∈ as, rule a = .ok () := by
  induction as with
  | nil => simp [checkEach]
  | cons a as ih => rw [checkEach, then_eq_ok, ih, List.forall_mem_cons]

end ClusterPlan
