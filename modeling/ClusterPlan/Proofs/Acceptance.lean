import ClusterPlan.Proofs.Machine
import ClusterPlan.Proofs.Run

/-!
# The rules of an accepted plan

Validation goes through its rules in order and stops at the first one that is broken, so a plan is
accepted iff it keeps all of them, and then the order does not matter. `Plan.Lawful` lists the rules
by name, and `Pool.Lawful` those for a pool; `Plan.accepted_iff_lawful` says that acceptance is
nothing else. What acceptance guarantees is read off these lists rule by rule.
-/

namespace ClusterPlan

/-- A pool that keeps all rules for the pools of a plan. -/
structure Pool.Lawful (s : Settings) (mode : Mode) (plan : Plan) (p : Pool) : Prop where
  publicName : p.checkPublic s plan.orchestration.type = .ok ()
  disks : p.checkDisks = .ok ()
  image : checkSome Image.check p.image = .ok ()
  choices : p.checkChoices s plan.orchestration = .ok ()
  scaleSet : plan.orchestration.runs .kubernetes = true →
    p.checkScaleSet s mode plan.orchestration = .ok ()
  sameAvailability : plan.orchestration.runs .kubernetes = true →
    p.checkSameAvailability plan = .ok ()
  windows : p.isWindows = true → checkWindows mode plan = .ok ()

/-- A plan that keeps all rules. -/
structure Plan.Lawful (s : Settings) (mode : Mode) (p : Plan) : Prop where
  fields : p.checkFields = .ok ()
  orchestration : p.orchestration.check s mode = .ok ()
  networkPlugin : p.checkNetworkPlugin = .ok ()
  networkPolicy : p.checkNetworkPolicy = .ok ()
  networkPair : p.checkNetworkPair = .ok ()
  containerRuntime : p.checkContainerRuntime = .ok ()
  addons : p.checkAddons = .ok ()
  master : p.master.check p.orchestration s.patterns = .ok ()
  poolNames : Pool.checkNames p.pools = .ok ()
  masterStorage : p.checkMasterStorage = .ok ()
  pools : ∀ pool ∈ p.pools, pool.Lawful s mode p
  linux : p.linux.check = .ok ()
  subnets : p.checkSubnets s = .ok ()
  servicePrincipal : p.checkServicePrincipal s = .ok ()
  directory : p.checkDirectory = .ok ()
  account : p.checkAccount = .ok ()
  extensions : p.checkExtensions s = .ok ()
  windowsImage : p.checkWindowsImage = .ok ()

variable {s : Settings} {mode : Mode}

theorem Pool.passes_iff_lawful {plan : Plan} {p : Pool} :
    p.Passes s mode plan ↔ p.Lawful s mode plan := by
  rw [Passes, visit_eq_ok, checkEquipment, then_eq_ok, checkWithin_eq_ok]
  constructor
  · rintro ⟨hpublic, ⟨hdisks, himage⟩, hchoices, hkubernetes, hwindows⟩
    exact ⟨hpublic, hdisks, himage, hchoices, fun hk => (hkubernetes hk).1,
      fun hk => (hkubernetes hk).2, hwindows⟩
  · intro h
    exact ⟨h.publicName, ⟨h.disks, h.image⟩, h.choices,
      fun hk => ⟨h.scaleSet hk, h.sameAvailability hk⟩, h.windows⟩

/-- A plan is accepted iff it keeps all rules. -/
theorem Plan.accepted_iff_lawful {p : Plan} : p.Accepted s mode ↔ p.Lawful s mode := by
  simp only [accepted_iff, checkBefore, checkAfter, then_eq_ok, Pool.passes_iff_lawful]
  constructor
  · rintro ⟨⟨hfields, horchestration, hplugin, hpolicy, hpair, hruntime, haddons, hmaster, hnames,
      hstorage⟩, hpools, hlinux, hsubnets, hprincipal, hdirectory, haccount, hextensions, himage⟩
    exact ⟨hfields, horchestration, hplugin, hpolicy, hpair, hruntime, haddons, hmaster, hnames,
      hstorage, hpools, hlinux, hsubnets, hprincipal, hdirectory, haccount, hextensions, himage⟩
  · intro h
    exact ⟨⟨h.fields, h.orchestration, h.networkPlugin, h.networkPolicy, h.networkPair,
      h.containerRuntime, h.addons, h.master, h.poolNames, h.masterStorage⟩, h.pools, h.linux,
      h.subnets, h.servicePrincipal, h.directory, h.account, h.extensions, h.windowsImage⟩

/-- A Kubernetes cluster of scale sets, one of them with Windows, that uses every feature with a
minimum version. -/
def Plan.fleet : Plan where
  orchestration := ⟨"Kubernetes", "", "1.10.2", some {
    imageBase := "", clusterSubnet := "10.240.0.0/12", networkPlugin := "azure"
    networkPolicy := "", containerRuntime := "docker", maxPods := 30
    dockerBridgeSubnet := "172.17.0.1/16", dnsServiceIP := "10.0.0.10"
    serviceCidr := "10.0.0.0/16", useManagedIdentity := false, useInstanceMetadata := none
    enableRbac := some true, enableSecureKubelet := none, enableAggregatedAPIs := true
    enableDataEncryptionAtRest := some true, enableEncryptionWithExternalKms := some true
    enablePodSecurityPolicy := some true, etcdEncryptionKey := "c2VjcmV0", etcdVersion := "3.2.16"
    useCloudControllerManager := some true, customCcmImage := "", cloudProviderBackoff := true
    cloudProviderRateLimit := true, addons := [⟨"cluster-autoscaler", some true, .empty⟩]
    kubeletConfig := .empty, controllerManagerConfig := .empty }, none, none⟩
  master := ⟨3, "masterdns1", "Standard_D2_v2", 0, "", "", "", "ManagedDisks", none⟩
  pools :=
    [⟨"web", 3, "Standard_D2_v2", 0, "", "Linux", [], "VirtualMachineScaleSets", "ManagedDisks",
        [128], "", none, "", .ofList [("example.com/tier", "web")]⟩,
      ⟨"legacy", 2, "Standard_D2_v2", 0, "", "Windows", [], "VirtualMachineScaleSets", "", [], "",
        none, "", .empty⟩]
  linux := ⟨"azureuser", ⟨[⟨"ssh-rsa AAAA"⟩]⟩, []⟩
  windows := some ⟨"azureuser", "secret", "", []⟩
  servicePrincipal := some ⟨"client", "secret", "object", none⟩
  directory := none
  account := none
  extensions := []

end ClusterPlan
