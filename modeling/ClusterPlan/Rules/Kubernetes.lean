import ClusterPlan.Address.Reader
import ClusterPlan.Rules.Name
import ClusterPlan.Rules.Release
import ClusterPlan.Text.Base64

/-!
# Settings of Kubernetes

The networks of a Kubernetes cluster, the options of its components, and the features that need a
certain version.

The cluster counts a node as lost when it has not heard from it for the grace period, so the grace
period must be a multiple of the interval at which nodes report (`checkRetries`).
-/

namespace ClusterPlan

open ClusterPlan.Text

namespace Kubernetes

/-- The option for the interval at which a node reports. -/
def updateFrequency : String := "--node-status-update-frequency"

/-- The option for the time after which a silent node counts as lost. -/
def gracePeriod : String := "--node-monitor-grace-period"

/-- The option for the time after which the pods of a lost node are moved. -/
def evictionTimeout : String := "--pod-eviction-timeout"

/-- The option for the interval at which routes are repaired. -/
def routePeriod : String := "--route-reconciliation-period"

/-- The option for the network that is not masked. -/
def nonMasquerade : String := "--non-masquerade-cidr"

/-- The plugin that gives every pod an address of the cluster subnet. -/
def addressPerPod : String := "azure"

/-! ## Networks -/

/-- The cluster subnet is a network, large enough for the nodes if pods take their addresses from
it. -/
def checkClusterSubnet (k : Kubernetes) : Verdict :=
  if k.clusterSubnet.isEmpty then .ok ()
  else match Network.read? k.clusterSubnet with
    | none => .error (.malformed (.clusterSubnet k.clusterSubnet))
    | some network =>
      refuse (k.networkPlugin == addressPerPod && network.hostBits < minHostBits)
        (.conflict (.clusterSubnetSize k.clusterSubnet))

/-- The subnet of the bridge is a network. -/
def checkDockerBridge (k : Kubernetes) : Verdict :=
  refuse (!k.dockerBridgeSubnet.isEmpty && (Network.read? k.dockerBridgeSubnet).isNone)
    (.malformed (.dockerBridge k.dockerBridgeSubnet))

/-- The address of the name service lies within a network and is neither of its ends nor the first
address after its beginning, which belongs to the cluster's own interface. -/
def checkServiceAddress (address network : String) (a : Address) (n : Network) : Verdict := do
  refuse (!n.contains a) (.conflict (.dnsServiceOutside address network))
  refuse (a == n.last) (.conflict (.dnsServiceLast address network))
  refuse (a == n.first) (.conflict (.dnsServiceNetwork address network))
  match n.first.next? with
  | none => .error .pastLastAddress
  | some second => refuse (a == second) (.conflict (.dnsServiceFirst address network))

/-- The address of the name service and the network of the services, of which neither goes without
the other. -/
def checkServices (k : Kubernetes) : Verdict :=
  if k.dnsServiceIP.isEmpty && k.serviceCidr.isEmpty then .ok ()
  else if k.dnsServiceIP.isEmpty then .error (.missing .dnsServiceAddress)
  else if k.serviceCidr.isEmpty then .error (.missing .serviceNetwork)
  else match Address.read? k.dnsServiceIP with
    | none => .error (.malformed (.dnsServiceAddress k.dnsServiceIP))
    | some a =>
      match Network.read? k.serviceCidr with
      | none => .error (.malformed (.serviceNetwork k.serviceCidr))
      | some n => checkServiceAddress k.dnsServiceIP k.serviceCidr a n

/-- The network that is not masked is a network. -/
def checkNonMasquerade (k : Kubernetes) : Verdict :=
  checkSome (fun network =>
      refuse (Network.read? network).isNone (.malformed (.nonMasquerade network)))
    (k.kubeletConfig.get? nonMasquerade)

/-! ## Durations -/

/-- The duration that an option is set to, if it is set. -/
def durationOf (options : TextMap) (option : String) : Except Fault (Option Duration) :=
  match options.get? option with
  | none => .ok none
  | some text =>
    match Duration.read text with
    | .ok d => .ok (some d)
    | .error _ => .error (.malformed (.duration option text))

/-- The grace period is too short for the wanted number of reports. -/
def isTooShort (grace update : Duration) (factor : Int) : Bool :=
  !update.seconds.isZero && (grace.seconds.div update.seconds).ltInt factor

/-- The grace period leaves room for a number of reports, if both times are set. -/
def checkRetries (factor : Int) (k : Kubernetes) : Verdict := do
  let update ← durationOf k.kubeletConfig updateFrequency
  let grace ← durationOf k.controllerManagerConfig gracePeriod
  match update, grace with
  | some update, some grace =>
    refuse (isTooShort grace update factor) (.conflict (.retries grace update factor))
  | _, _ => .ok ()

/-- An option is a duration, if it is set. -/
def checkDuration (options : TextMap) (option : String) : Verdict :=
  (durationOf options option).map fun _ => ()

/-! ## All settings -/

/-- The number of pods of a node, where zero means the default. -/
def checkMaxPods (least : Int) (k : Kubernetes) : Verdict :=
  refuse (k.maxPods != 0 && k.maxPods < least) (.malformed (.maxPods k.maxPods least))

/-- A controller for the cloud of its own needs a minimum version. -/
def checkCloudController (s : Settings) (version : String) (k : Kubernetes) : Verdict :=
  checkWhen (k.useCloudControllerManager == some true || !k.customCcmImage.isEmpty)
    (checkMinimum version s.cloudControllerMinimum (.cloudController version))

/-- The settings for a resolved version. -/
def check (s : Settings) (version : String) (k : Kubernetes) : Verdict := do
  k.checkClusterSubnet
  k.checkDockerBridge
  k.checkMaxPods s.minMaxPods
  k.checkRetries s.minKubeletRetries
  k.checkNonMasquerade
  checkDuration k.controllerManagerConfig evictionTimeout
  checkDuration k.controllerManagerConfig routePeriod
  refuse (k.cloudProviderBackoff && !supportsBackoff version) (.conflict (.backoff version))
  refuse (k.cloudProviderRateLimit && !supportsRateLimit version) (.conflict (.rateLimit version))
  k.checkServices
  checkEtcdVersion s.etcdVersions k.etcdVersion
  k.checkCloudController s version

/-! ## Features -/

/-- Aggregated interfaces need a minimum version and access control that is not switched off. -/
def checkAggregatedAPIs (s : Settings) (version : String) (k : Kubernetes) : Verdict :=
  checkWhen k.enableAggregatedAPIs do
    checkMinimum version s.aggregatedAPIsMinimum
      (.aggregatedAPIs s.aggregatedAPIsMinimum version)
    refuse (k.enableRbac == some false) (.conflict .aggregatedAPIsWithoutRbac)

/-- A key in base 64. -/
def isEncryptionKey (key : String) : Bool :=
  (Base64.decodeStrict Base64.urlSafe key.toList).isSome

/-- Encryption of stored data needs a minimum version, and its key is in base 64. -/
def checkDataEncryption (s : Settings) (version requested : String) (k : Kubernetes) : Verdict :=
  checkWhen (k.enableDataEncryptionAtRest == some true) do
    checkMinimum version s.dataEncryptionMinimum (.dataEncryption s.dataEncryptionMinimum
      (if requested.isEmpty then version else requested))
    refuse (!k.etcdEncryptionKey.isEmpty && !isEncryptionKey k.etcdEncryptionKey)
      (.malformed .etcdKey)

/-- Encryption with keys of another service needs a minimum version. -/
def checkExternalKms (s : Settings) (version requested : String) (k : Kubernetes) : Verdict :=
  checkWhen (k.enableEncryptionWithExternalKms == some true)
    (checkMinimum version s.externalKmsMinimum (.externalKms s.externalKmsMinimum
      (if requested.isEmpty then version else requested)))

/-- Security policies for pods need access control and a minimum version. -/
def checkPodSecurity (s : Settings) (version : String) (k : Kubernetes) : Verdict :=
  checkWhen (k.enablePodSecurityPolicy == some true) do
    refuse (k.enableRbac != some true) (.conflict .podSecurityWithoutRbac)
    checkMinimum version s.podSecurityMinimum (.podSecurity s.podSecurityMinimum version)

/-- The features for a resolved version and the version that was asked for. -/
def checkFeatures (s : Settings) (version requested : String) (k : Kubernetes) : Verdict := do
  k.checkAggregatedAPIs s version
  k.checkDataEncryption s version requested
  k.checkExternalKms s version requested
  k.checkPodSecurity s version

end Kubernetes

end ClusterPlan
