import ClusterPlan.Proofs.Acceptance
import ClusterPlan.Proofs.Resolution
import ClusterPlan.Proofs.Run
import ClusterPlan.Proofs.Unstatable

/-!
# Resolved versions and the rules that depend on them

Some rules compare the version of a plan with a minimum or look it up among those on offer. By
themselves these rules work with any version, also one that is no version at all. Within the
validation of a plan they see resolved versions only, and whatever a plan resolves to is on offer
for Linux (`Orchestration.resolved_mem_offered`).

So some faults never come out of the validation of a Kubernetes plan: those of the features that
every version on offer has, and those of a version that cannot be read (`Fault.blamesVersion`). An
outcome `Spares` the version if it is no such fault. Rules that see no version do so by the lemmas
on the ways in which rules are put together. The others do so for every version on offer, as long as
the settings are `Suited` to the catalogue: its versions meet two of the minimums, and all minimums
can be read.
-/

namespace ClusterPlan

open Catalogue

/-! ## What a plan resolves to -/

/-- Whatever a plan resolves to is on offer for Linux. -/
theorem Orchestration.resolved_mem_offered {o : Orchestration} {mode : Mode} {windows : Bool}
    {version : String} (h : o.resolvedVersion mode windows = .ok version) :
    ∃ orchestrator, Orchestrator.ofName? o.type = some orchestrator ∧
      version ∈ (of false orchestrator).offered := by
  rcases resolvedVersion_eq_ok.1 h with hresolved | ⟨-, -, hpatch⟩
  · obtain ⟨orchestrator, hname, hresolved⟩ := exists_catalogue_of_resolve hresolved
    have hlinux := resolve_eq_some_iff.1 (resolve_of_windows hresolved)
    exact ⟨orchestrator, hname, hlinux.mem_offered⟩
  · obtain ⟨orchestrator, hname, hpatch⟩ := exists_catalogue_of_patch hpatch
    refine ⟨orchestrator, hname, ?_⟩
    by_cases hversion : o.version = ""
    · rw [hversion] at hpatch
      obtain rfl := Option.some.inj (Except.ok.inj hpatch)
      exact default_mem_offered false orchestrator
    · obtain ⟨v, -, hresolved⟩ := (patchFor_eq_some hversion).1 hpatch
      exact (resolve_eq_some_iff.1 hresolved).mem_offered

theorem Orchestration.resolved_mem_kubernetes {o : Orchestration} {mode : Mode} {windows : Bool}
    {version : String} (hk : o.runs .kubernetes = true)
    (h : o.resolvedVersion mode windows = .ok version) :
    version ∈ Catalogue.kubernetes.offered := by
  obtain ⟨orchestrator, hname, hoffered⟩ := resolved_mem_offered h
  rw [runs_eq_true.1 hk, Orchestrator.ofName?_name] at hname
  obtain rfl := Option.some.inj hname
  exact hoffered

/-! ## Faults that blame the version -/

/-- The faults of a version that cannot be read or that cannot be compared with a minimum, and those
of a version that lacks a feature which all versions on offer have. -/
@[simp]
def Fault.blamesVersion : Fault → Bool
  | malformed (.version _) => true
  | malformed (.minimum _ _) => true
  | conflict (.backoff _) => true
  | conflict (.rateLimit _) => true
  | conflict (.aggregatedAPIs _ _) => true
  | conflict (.dataEncryption _ _) => true
  | _ => false

/-- The outcome is no fault that blames the version. -/
def Spares {α : Type} (outcome : Except Fault α) : Prop :=
  ∀ fault, outcome = .error fault → fault.blamesVersion = false

namespace Spares

variable {α β : Type}

@[simp]
theorem ok (a : α) : Spares (.ok a : Except Fault α) := nofun

@[simp]
theorem error_iff {fault : Fault} :
    Spares (.error fault : Except Fault α) ↔ fault.blamesVersion = false := by
  simp [Spares]

@[simp]
theorem bind_iff {step : Except Fault α} {next : α → Except Fault β} :
    Spares (step >>= next) ↔ Spares step ∧ ∀ a, step = .ok a → Spares (next a) := by
  cases step with
  | error fault => simp [bind, Except.bind]
  | ok a => simp [bind, Except.bind]

@[simp]
theorem map_iff {step : Except Fault α} {f : α → β} : Spares (step.map f) ↔ Spares step := by
  cases step <;> simp [Except.map]

@[simp]
theorem discard_iff {step : Except Fault α} : Spares (discard step : Verdict) ↔ Spares step := by
  cases step with
  | error fault => simp [discard, Functor.discard, Functor.mapConst, Except.map]
  | ok a => simp [discard, Functor.discard, Functor.mapConst, Except.map]

@[simp]
theorem refuse_iff {broken : Bool} {fault : Fault} :
    Spares (refuse broken fault) ↔ (broken = true → fault.blamesVersion = false) := by
  cases broken <;> simp [refuse]

@[simp]
theorem when_iff {condition : Bool} {rule : Verdict} :
    Spares (checkWhen condition rule) ↔ (condition = true → Spares rule) := by
  cases condition <;> simp [checkWhen]

@[simp]
theorem some_iff {rule : α → Verdict} {value : Option α} :
    Spares (checkSome rule value) ↔ ∀ a, value = some a → Spares (rule a) := by
  cases value <;> simp [checkSome]

/-- A member of a list counts if those before it keep the rule. -/
@[simp]
theorem each_iff {rule : α → Verdict} {as : List α} :
    Spares (checkEach rule as) ↔
      ∀ before a after, as = before ++ a :: after → checkEach rule before = .ok () →
        Spares (rule a) := by
  induction as with
  | nil => simp [checkEach]
  | cons a as ih =>
    rw [checkEach, bind_iff, ih]
    constructor
    · rintro ⟨hfirst, hrest⟩ before b after heq hbefore
      cases before with
      | nil =>
        obtain ⟨rfl, -⟩ := List.cons.inj heq
        exact hfirst
      | cons c before =>
        rw [List.cons_append] at heq
        obtain ⟨rfl, hmembers⟩ := List.cons.inj heq
        obtain ⟨hfirst, hbefore⟩ := then_eq_ok.1 hbefore
        exact hrest () hfirst before b after hmembers hbefore
    · intro h
      refine ⟨h [] a as rfl rfl, fun _ hfirst before b after heq hbefore => ?_⟩
      refine h (a :: before) b after ?_ (then_eq_ok.2 ⟨hfirst, hbefore⟩)
      rw [heq, List.cons_append]

end Spares

/-! ## Rules that see no version -/

section plain

variable {s : Settings} {p : Plan}

theorem Pool.spares_checkAllFields (pools : List Pool) (position : Nat) :
    Spares (checkAllFields position pools) := by
  induction pools generalizing position with
  | nil => exact .ok ()
  | cons pool pools ih =>
    simp [checkAllFields, checkFields, checkText, checkPresent, checkRange, ih]

theorem Plan.spares_checkFields : Spares p.checkFields := by
  simp [checkFields, Master.checkFields, LinuxAccess.checkFields, checkOneOf, checkText,
    checkPresent, checkRange, Pool.spares_checkAllFields]

theorem Image.spares_check (image : Image) : Spares image.check := by
  simp [check]

theorem Master.spares_check {o : Orchestration} {patterns : Identifier.Patterns} :
    Spares (p.master.check o patterns) := by
  simp [check, checkDnsName, Image.spares_check]

theorem Pool.spares_checkNames {pools : List Pool} : Spares (checkNames pools) := by
  unfold checkNames
  split <;> simp

theorem Pool.spares_checkPublic {pool : Pool} {orchestrator : String} :
    Spares (pool.checkPublic s orchestrator) := by
  have hports : Spares (checkPorts pool.ports pool.name) := by
    unfold checkPorts
    split <;> simp
  simp [checkPublic, checkPoolName, checkOsType, checkDnsName, hports]

theorem Pool.spares_checkEquipment {pool : Pool} : Spares pool.checkEquipment := by
  simp [checkEquipment, checkDisks, Image.spares_check]

theorem Pool.spares_checkChoices {pool : Pool} {o : Orchestration} :
    Spares (pool.checkChoices s o) := by
  simp [checkChoices, checkLabel, checkLabelKey, checkLabelValue]

theorem VaultSecrets.spares_check (needsStore : Bool) (secrets : VaultSecrets) :
    Spares (secrets.check needsStore) := by
  have haddress : ∀ url, Spares (checkCertificateAddress url) := by
    intro url
    unfold checkCertificateAddress
    split <;> simp
  simp [check, VaultCertificate.check, haddress]

theorem WindowsAccess.spares_check (w : WindowsAccess) : Spares w.check := by
  simp [check, VaultSecrets.spares_check]

theorem Plan.spares_checkSubnets : Spares (p.checkSubnets s) := by
  have hsubnet : ∀ path, Spares (readSubnet path s.patterns) := by
    intro path fault h
    rcases (readSubnet_meets path).of_error h with rfl | ⟨rfl, -⟩
    · rfl
    · rfl
  simp [checkSubnets, Pool.checkSubnet, Master.checkAddresses, hsubnet]

theorem Plan.spares_checkServicePrincipal : Spares (p.checkServicePrincipal s) := by
  unfold checkServicePrincipal ServicePrincipal.checkNeeded
  split <;> simp [ServicePrincipal.check, SecretReference.check]

theorem Plan.spares_checkAccount : Spares p.checkAccount := by
  unfold checkAccount
  split <;> simp

theorem Plan.spares_checkAfter : Spares (p.checkAfter s) := by
  simp [checkAfter, LinuxAccess.check, checkDirectory, Directory.check, checkExtensions,
    Extension.check, SecretReference.check, checkWindowsImage, VaultSecrets.spares_check,
    spares_checkSubnets, spares_checkServicePrincipal, spares_checkAccount]

end plain

/-! ## Rules that see a version -/

/-- Settings that are suited to the versions of Kubernetes on offer: these meet the minimums of
aggregated interfaces and of the encryption of stored data, and all minimums can be read. -/
structure Settings.Suited (s : Settings) : Prop where
  aggregatedAPIs : ∀ version ∈ kubernetes.offered, AtLeast version s.aggregatedAPIsMinimum
  dataEncryption : ∀ version ∈ kubernetes.offered, AtLeast version s.dataEncryptionMinimum
  readable : ∀ minimum ∈ s.minimums, ∃ w, Version.read (dropV minimum) = .ok w

/-- All versions of Kubernetes on offer have aggregated interfaces and the encryption of stored
data. -/
theorem atLeast_of_mem_offered {version : String} (h : version ∈ kubernetes.offered) :
    AtLeast version "1.7.0" := by
  have hmet : ∀ version ∈ kubernetes.offered, meetsMinimum version "1.7.0" = .ok true := by decide
  exact meetsMinimum_eq_true.1 (hmet version h)

/-- The settings that hold where nothing else is said are suited to the catalogue. -/
theorem Settings.suited_standard : standard.Suited where
  aggregatedAPIs _ h := atLeast_of_mem_offered h
  dataEncryption _ h := atLeast_of_mem_offered h
  readable := by
    have hread : ∀ minimum ∈ standard.minimums, (series? (dropV minimum)).isSome = true := by
      decide
    intro minimum h
    obtain ⟨series, hseries⟩ := Option.isSome_iff_exists.1 (hread minimum h)
    obtain ⟨w, hw, -⟩ := series?_eq_some.1 hseries
    exact ⟨w, hw⟩

section versions

variable {s : Settings} {mode : Mode} {p : Plan} {k : Kubernetes} {version requested : String}

/-- A version that does not meet the minimum of a feature conflicts with the feature, and there is
no other fault. -/
theorem spares_checkMinimum (hs : s.Suited) (hversion : version ∈ kubernetes.offered)
    {minimum : String} {conflict : Conflict} (hminimum : minimum ∈ s.minimums)
    (h : ¬ AtLeast version minimum → (Fault.conflict conflict).blamesVersion = false) :
    Spares (checkMinimum version minimum conflict) := by
  by_cases hmet : AtLeast version minimum
  · rw [checkMinimum_eq_ok.2 hmet]
    exact .ok ()
  · have hoffered : version ∈ (of false .kubernetes).offered := hversion
    obtain ⟨v, hv⟩ := read_of_mem_offered hoffered
    rw [← (dropV_of_mem_offered hoffered).1] at hv
    obtain ⟨w, hw⟩ := hs.readable minimum hminimum
    simp [-Fault.blamesVersion, checkMinimum, meetsMinimum, readVersion_eq_ok.2 hv,
      readVersion_eq_ok.2 hw, h hmet]

namespace Kubernetes

theorem spares_durationOf (options : TextMap) (option : String) :
    Spares (durationOf options option) := by
  unfold durationOf
  split
  · exact .ok _
  · split <;> simp

theorem spares_checkDuration (options : TextMap) (option : String) :
    Spares (checkDuration options option) := by
  simp [checkDuration, spares_durationOf]

theorem spares_checkRetries (factor : Int) : Spares (k.checkRetries factor) := by
  simp only [checkRetries, Spares.bind_iff]
  refine ⟨spares_durationOf _ _, fun update _ => ⟨spares_durationOf _ _, fun grace _ => ?_⟩⟩
  split <;> simp

theorem spares_checkClusterSubnet : Spares k.checkClusterSubnet := by
  unfold checkClusterSubnet
  split
  · exact .ok ()
  · split <;> simp

theorem spares_checkServices : Spares k.checkServices := by
  have haddress : ∀ a n, Spares (checkServiceAddress k.dnsServiceIP k.serviceCidr a n) := by
    intro a n
    unfold checkServiceAddress
    split <;> simp
  unfold checkServices
  repeat' split
  all_goals simp [haddress]

/-- The settings for a version on offer. -/
theorem spares_check (hs : s.Suited) (hversion : version ∈ Catalogue.kubernetes.offered) :
    Spares (k.check s version) := by
  have hbackoff : supportsBackoff version = true := offers_eq_true.2 hversion
  have hcontroller : Spares (checkMinimum version s.cloudControllerMinimum
      (.cloudController version)) :=
    spares_checkMinimum hs hversion (by simp [Settings.minimums]) fun _ => rfl
  simp [check, checkDockerBridge, checkMaxPods, checkNonMasquerade, checkEtcdVersion,
    checkCloudController, supportsRateLimit, spares_checkClusterSubnet, spares_checkRetries,
    spares_checkDuration, spares_checkServices, hbackoff, hcontroller]

/-- The features for a version on offer. -/
theorem spares_checkFeatures (hs : s.Suited) (hversion : version ∈ Catalogue.kubernetes.offered) :
    Spares (k.checkFeatures s version requested) := by
  have hmet : ∀ minimum ∈ s.minimums, AtLeast version minimum → ∀ conflict,
      Spares (checkMinimum version minimum conflict) := fun minimum hminimum h conflict =>
    spares_checkMinimum hs hversion hminimum fun hnot => absurd h hnot
  have haggregated := hmet _ (by simp [Settings.minimums]) (hs.aggregatedAPIs version hversion)
  have hencryption := hmet _ (by simp [Settings.minimums]) (hs.dataEncryption version hversion)
  have hexternal : ∀ text, Spares (checkMinimum version s.externalKmsMinimum
      (.externalKms s.externalKmsMinimum text)) := fun text =>
    spares_checkMinimum hs hversion (by simp [Settings.minimums]) fun _ => rfl
  have hsecurity : Spares (checkMinimum version s.podSecurityMinimum
      (.podSecurity s.podSecurityMinimum version)) :=
    spares_checkMinimum hs hversion (by simp [Settings.minimums]) fun _ => rfl
  simp [checkFeatures, checkAggregatedAPIs, checkDataEncryption, checkExternalKms,
    checkPodSecurity, haggregated, hencryption, hexternal, hsecurity]

end Kubernetes

/-- By themselves the rules do refuse a version that is recognised but not on offer. -/
example : "1.6.13" ∈ kubernetes.known ∧ supportsBackoff "1.6.13" = false ∧
    meetsMinimum "1.6.13" Settings.standard.dataEncryptionMinimum = .ok false := by decide

theorem Orchestration.spares_resolvedVersion {windows : Bool} (o : Orchestration) :
    Spares (o.resolvedVersion mode windows) := by
  intro fault h
  rcases resolvedVersion_eq_error h with rfl | ⟨-, -, rfl⟩ <;> rfl

/-- The orchestrator of a Kubernetes plan. -/
theorem Orchestration.spares_check (hs : s.Suited) (hk : p.orchestration.runs .kubernetes = true) :
    Spares (p.orchestration.check s mode) := by
  have hsections : Spares p.orchestration.checkSections := by
    simp [checkSections]
  have hown : Spares (p.orchestration.checkOwn s mode .kubernetes) := by
    cases mode with
    | update => simp [checkOwn, spares_resolvedVersion]
    | create =>
      simp only [checkOwn, checkKubernetes, Spares.bind_iff, Spares.some_iff]
      refine ⟨spares_resolvedVersion _, fun version hresolved k _ => ?_⟩
      have hversion := resolved_mem_kubernetes hk hresolved
      exact ⟨Kubernetes.spares_check hs hversion,
        fun _ _ => Kubernetes.spares_checkFeatures hs hversion⟩
  unfold check
  rw [runs_eq_true.1 hk, Orchestrator.ofName?_name]
  simp [hown, hsections]

theorem Pool.spares_checkScaleSet (hs : s.Suited) (hk : p.orchestration.runs .kubernetes = true)
    (pool : Pool) : Spares (pool.checkScaleSet s mode p.orchestration) := by
  simp only [checkScaleSet, Spares.when_iff, Spares.bind_iff]
  refine fun _ => ⟨p.orchestration.spares_resolvedVersion, fun version hresolved => ?_⟩
  have hversion := Orchestration.resolved_mem_kubernetes hk hresolved
  have hsets : Spares (checkMinimum version s.scaleSetMinimum
      (.scaleSets s.scaleSetMinimum version)) :=
    spares_checkMinimum hs hversion (by simp [Settings.minimums]) fun _ => rfl
  have hmetadata : Spares (checkMinimum version s.scaleSetMetadataMinimum
      (.scaleSetMetadata s.scaleSetMetadataMinimum)) :=
    spares_checkMinimum hs hversion (by simp [Settings.minimums]) fun _ => rfl
  simp [hsets, hmetadata]

theorem Pool.spares_checkWindows : Spares (checkWindows mode p) := by
  simp [checkWindows, Orchestration.spares_resolvedVersion, WindowsAccess.spares_check]

/-- A pool of a Kubernetes plan. -/
theorem Pool.spares_visit (hs : s.Suited) (hk : p.orchestration.runs .kubernetes = true)
    (pool : Pool) : Spares (pool.visit s mode p).2 := by
  have hsettle : Spares (pool.settle s p.orchestration.type).2 := by
    have hpublic : Spares (pool.checkPublic s p.orchestration.type) := spares_checkPublic
    rcases settle_cases s p.orchestration.type pool with ⟨fault, hfault, h⟩ | ⟨-, h⟩
    · rw [h, ← hfault]
      exact hpublic
    · rw [h]
      exact spares_checkEquipment
  rw [visit_snd]
  simp [checkWithin, checkSameAvailability, hsettle, spares_checkChoices,
    spares_checkScaleSet hs hk, spares_checkWindows]

namespace Plan

theorem spares_checkBefore (hs : s.Suited) (hk : p.orchestration.runs .kubernetes = true) :
    Spares (p.checkBefore s mode) := by
  simp [checkBefore, checkNetworkPlugin, checkNetworkPolicy, checkNetworkPair,
    checkContainerRuntime, checkAddons, checkMasterStorage, spares_checkFields,
    Orchestration.spares_check hs hk, Master.spares_check, Pool.spares_checkNames]

/-- The validation of a Kubernetes plan with suited settings. -/
theorem spares_validate (hs : s.Suited) (hk : p.orchestration.runs .kubernetes = true) :
    Spares (p.validate s mode).2 := by
  rcases validate_cases s mode p with
    ⟨fault, hbefore, h⟩ | ⟨-, before, pool, after, fault, -, -, hpool, h⟩ | ⟨-, -, h⟩
  · rw [h, ← hbefore]
    exact spares_checkBefore hs hk
  · rw [h, ← hpool]
    exact Pool.spares_visit hs hk pool
  · rw [h]
    exact spares_checkAfter

end Plan

end versions

/-- **No version that a plan resolves to is to blame.** Whatever a plan resolves to is on offer for
Linux. So with the settings that hold where nothing else is said, no fault of a Kubernetes plan is
that a version cannot be read or compared, or that it is too old for retries, for limits of the rate
of calls, for aggregated interfaces or for the encryption of stored data. -/
theorem resolved_supported_and_spared :
    (∀ (o : Orchestration) (mode : Mode) (windows : Bool) (version : String),
      o.resolvedVersion mode windows = .ok version →
        ∃ c, Catalogue.ofName? o.type false = some c ∧ version ∈ c.offered) ∧
    ∀ (p : Plan) (mode : Mode) (fault : Fault), p.orchestration.runs .kubernetes = true →
      (p.validate .standard mode).2 = .error fault → fault.blamesVersion = false := by
  refine ⟨fun o mode windows version h => ?_, fun p mode fault hk h => ?_⟩
  · obtain ⟨orchestrator, hname, hoffered⟩ := Orchestration.resolved_mem_offered h
    exact ⟨of false orchestrator, by rw [Catalogue.ofName?, hname, Option.map_some], hoffered⟩
  · exact Plan.spares_validate Settings.suited_standard hk fault h

/-- A fleet whose version is too old for its service for keys. -/
def Plan.agedFleet : Plan :=
  { Plan.fleet with orchestration := { Plan.fleet.orchestration with version := "v1.9.8" } }

/-- The version that it comes to is on offer, and its fault is none of those. -/
theorem agedFleet_resolved_and_spared :
    (Plan.agedFleet.orchestration.resolvedVersion .create true = .ok "1.9.8" ∧
      ∃ c, Catalogue.ofName? Plan.agedFleet.orchestration.type false = some c ∧
        "1.9.8" ∈ c.offered) ∧
      ∃ fault, (Plan.agedFleet.validate .standard .create).2 = .error fault ∧
        fault.blamesVersion = false := by
  have hresolved : Plan.agedFleet.orchestration.resolvedVersion .create true = .ok "1.9.8" := by
    decide +kernel
  have hrejected : (Plan.agedFleet.validate .standard .create).2 =
      .error (.conflict (.externalKms "1.10.0" "v1.9.8")) := by
    rfl
  obtain ⟨hoffered, hspared⟩ := resolved_supported_and_spared
  exact ⟨⟨hresolved, hoffered _ _ _ _ hresolved⟩, _, hrejected,
    hspared _ _ _ (by decide) hrejected⟩

end ClusterPlan
