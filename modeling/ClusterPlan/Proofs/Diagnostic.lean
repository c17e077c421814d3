import ClusterPlan.Proofs.Run
import ClusterPlan.Proofs.Unstatable

/-!
# What validation answers

A plan is accepted, or rejected with a diagnostic, or rejected for a cause that leaves no diagnostic
(`Plan.validate_explained`). The answer of every rule is explained by itself, and a run stops at one
of the rules (`Plan.validate_cases`).

Rules that go with any cause at all have nothing to explain. The one that takes an argument is the
rule for the name service: the successor of the last address is asked for only if the name service
has that address too, in a zone of its own (`Network.lastV6_of_contains`). `Plan.edge` is such a
plan, without any number or version out of the ordinary.
-/

namespace ClusterPlan

open Catalogue

/-! ## The name service -/

/-- In a network that begins with an address without a successor, every address other than the last
one is the last of all addresses in some zone. -/
theorem Network.lastV6_of_contains {n : Network} {a : Address} (hcontains : n.contains a = true)
    (hlast : a ≠ n.last) (hnext : n.first.next? = none) :
    ∃ zone zone', a = .lastV6 zone ∧ zone ≠ none ∧ n.first = .lastV6 zone' := by
  cases n with
  | v4 first length =>
    have hfirst : first = BitVec.allOnes 32 := by
      by_cases h : first = BitVec.allOnes 32
      · exact h
      · simp only [Network.first, Address.next?, if_neg h] at hnext
        cases hnext
    cases a with
    | v6 word zone => cases hcontains
    | v4 word =>
      simp only [Network.contains, beq_iff_eq, hfirst] at hcontains
      obtain ⟨rfl, -⟩ := BitVec.and_eq_allOnes_iff.1 hcontains
      exact absurd (by rw [Network.last, hfirst, BitVec.allOnes_or]) hlast
  | v6 first zone' length =>
    have hfirst : first = BitVec.allOnes 128 := by
      by_cases h : first = BitVec.allOnes 128
      · exact h
      · simp only [Network.first, Address.next?, if_neg h] at hnext
        cases hnext
    cases a with
    | v4 word => cases hcontains
    | v6 word zone =>
      simp only [Network.contains, beq_iff_eq, hfirst] at hcontains
      obtain ⟨rfl, -⟩ := BitVec.and_eq_allOnes_iff.1 hcontains
      refine ⟨zone, zone', rfl, ?_, by rw [Network.first, hfirst, Address.lastV6]⟩
      rintro rfl
      exact hlast (by rw [Network.last, hfirst, BitVec.allOnes_or])

/-! ## Kubernetes -/

namespace Kubernetes

variable {s : Settings} {mode : Mode} {p : Plan} {k : Kubernetes} {version requested : String}
  {causes : Fault → Prop}

/-- An option that is no duration is stated as it is. -/
theorem explained_durationOf (options : TextMap) (option : String) :
    Explained causes (durationOf options option) := by
  unfold durationOf
  split
  · exact .ok _
  · split
    · exact .ok _
    · exact .error nofun

/-- So is one that is only checked. -/
theorem explained_checkDuration (options : TextMap) (option : String) :
    Explained causes (checkDuration options option) := by
  have h : Explained causes (durationOf options option) := explained_durationOf options option
  unfold checkDuration
  cases hd : durationOf options option with
  | ok d => exact .ok ()
  | error fault =>
    rw [hd] at h
    exact .error (h fault rfl)

/-- The rule for the cluster subnet quotes texts only. -/
theorem explained_checkClusterSubnet : Explained causes k.checkClusterSubnet := by
  unfold checkClusterSubnet
  split
  · exact .ok ()
  · split
    · exact .error nofun
    · exact .plain nofun

/-- The rule for the number of pods quotes that number and its limit. -/
theorem explained_checkMaxPods (hk : p.kubernetes = some k) :
    Explained (p.Unstatable s mode) (k.checkMaxPods s.minMaxPods) := by
  apply Explained.refuse
  intro hkind
  obtain ⟨n, hquoted, hlong⟩ := Malformed.exists_quoted hkind
  have hn : n = k.maxPods ∨ n = s.minMaxPods := by simpa [Malformed.quoted] using hquoted
  rcases hn with rfl | rfl
  · exact .number hquoted (by simp [Plan.numbers, hk]) hlong
  · exact .limit hquoted (by simp [Settings.limits]) hlong

/-- The rule for the reports of nodes quotes the number of reports that the settings ask for. -/
theorem explained_checkRetries :
    Explained (p.Unstatable s mode) (k.checkRetries s.minKubeletRetries) := by
  unfold checkRetries
  refine Explained.bind (explained_durationOf _ _) ?_
  intro update _
  refine Explained.bind (explained_durationOf _ _) ?_
  intro grace _
  split
  · apply Explained.refuse
    intro hkind
    by_cases hlong : Numeral.isWritable s.minKubeletRetries = true
    · simp [Fault.kind, Conflict.quoted, hlong] at hkind
    · exact .retries (by simpa using hlong)
  · exact .ok ()

/-- The successor of the first address of the network is asked for only if all else about the name
service is in order. -/
theorem explained_checkServices (hk : p.kubernetes = some k) :
    Explained (p.Unstatable s .create) k.checkServices := by
  unfold checkServices
  split
  · exact .ok ()
  split
  · exact .error nofun
  split
  · exact .error nofun
  split
  · exact .error nofun
  next a haddress =>
  split
  · exact .error nofun
  next n hnetwork =>
  unfold checkServiceAddress
  refine Explained.bind (.plain nofun) ?_
  intro _ hcontains
  refine Explained.bind (.plain nofun) ?_
  intro _ hlast
  refine Explained.bind (.plain nofun) ?_
  intro _ hfirst
  split
  · next hnext =>
    apply Explained.error
    intro _
    have hmember : n.contains a = true := by simpa using refuse_eq_ok.1 hcontains
    have hnotLast : a ≠ n.last := by simpa using refuse_eq_ok.1 hlast
    have hnotFirst : a ≠ n.first := by simpa using refuse_eq_ok.1 hfirst
    obtain ⟨zone, zone', rfl, hzone, hbegin⟩ := Network.lastV6_of_contains hmember hnotLast hnext
    refine .lastAddress rfl hk haddress hnetwork hbegin hzone ?_
    rintro rfl
    exact hnotFirst hbegin.symm
  · exact .plain nofun

/-- The settings of a new cluster, for a version that can be read. -/
theorem explained_check (hk : p.kubernetes = some k)
    (hversion : ∃ v, Version.read (dropV version) = .ok v) :
    Explained (p.Unstatable s .create) (k.check s version) := by
  unfold check checkDockerBridge checkNonMasquerade checkCloudController checkEtcdVersion
  refine Explained.next explained_checkClusterSubnet ?_
  refine Explained.next (.plain nofun) ?_
  refine Explained.next (explained_checkMaxPods hk) ?_
  refine Explained.next explained_checkRetries ?_
  refine Explained.next (.some fun _ _ => .plain nofun) ?_
  refine Explained.next (explained_checkDuration _ _) ?_
  refine Explained.next (explained_checkDuration _ _) ?_
  refine Explained.next (.plain nofun) ?_
  refine Explained.next (.plain nofun) ?_
  refine Explained.next (explained_checkServices hk) ?_
  refine Explained.next (.plain nofun) ?_
  apply Explained.when
  intro _
  exact explained_checkMinimum hversion (by simp [Settings.minimums]) rfl

/-- The features for a version that can be read. -/
theorem explained_checkFeatures (hversion : ∃ v, Version.read (dropV version) = .ok v) :
    Explained (p.Unstatable s mode) (k.checkFeatures s version requested) := by
  have hminimum : ∀ minimum ∈ s.minimums, ∀ conflict : Conflict, conflict.quoted = [] →
      Explained (p.Unstatable s mode) (checkMinimum version minimum conflict) :=
    fun _ hmem _ hquoted => explained_checkMinimum hversion hmem hquoted
  unfold checkFeatures checkAggregatedAPIs checkDataEncryption checkExternalKms checkPodSecurity
  refine Explained.next (.when fun _ => ?_) (.next (.when fun _ => ?_) (.next (.when fun _ => ?_)
    (.when fun _ => ?_)))
  · exact .next (hminimum _ (by simp [Settings.minimums]) _ rfl) (.plain nofun)
  · exact .next (hminimum _ (by simp [Settings.minimums]) _ rfl) (.plain nofun)
  · exact hminimum _ (by simp [Settings.minimums]) _ rfl
  · exact .next (.plain nofun) (hminimum _ (by simp [Settings.minimums]) _ rfl)

end Kubernetes

/-! ## The orchestrator -/

namespace Orchestration

variable {s : Settings} {mode : Mode} {p : Plan} {causes : Fault → Prop}

/-- Sections of other orchestrators are told without a number. -/
theorem explained_checkSections {o : Orchestration} : Explained causes o.checkSections := by
  unfold checkSections
  exact .next (.plain nofun) (.next (.plain nofun) (.plain nofun))

/-- What an orchestrator checks by itself. DC/OS comes to a version, and Kubernetes has numbers and
addresses to check as well. -/
theorem explained_checkOwn {orchestrator : Orchestrator}
    (hruns : p.orchestration.runs orchestrator = true) :
    Explained (p.Unstatable s mode) (p.orchestration.checkOwn s mode orchestrator) := by
  cases orchestrator with
  | swarm => exact .ok ()
  | swarmMode => exact .ok ()
  | openShift =>
    cases mode with
    | update => exact .ok ()
    | create => exact .next (.plain nofun) (.plain nofun)
  | dcos =>
    cases mode with
    | update => exact .discard explained_resolvedVersion
    | create =>
      refine Explained.next (.discard explained_resolvedVersion) ?_
      exact .some fun _ _ => .some fun _ _ => .plain nofun
  | kubernetes =>
    cases mode with
    | update => exact .discard explained_resolvedVersion
    | create =>
      refine Explained.bind explained_resolvedVersion ?_
      intro version hresolved
      have hversion := exists_read_of_resolved hruns hresolved
      apply Explained.some
      intro k hk
      refine Explained.next (Kubernetes.explained_check hk hversion) ?_
      exact Kubernetes.explained_checkFeatures hversion

/-- The rules for the orchestrator, in either mode. -/
theorem explained_check : Explained (p.Unstatable s mode) (p.orchestration.check s mode) := by
  unfold check
  cases ho : Orchestrator.ofName? p.orchestration.type with
  | none => exact .error nofun
  | some orchestrator =>
    have hruns : p.orchestration.runs orchestrator = true :=
      runs_eq_true.2 (Orchestrator.name_of_ofName? ho).symm
    exact .next (explained_checkOwn hruns) explained_checkSections

end Orchestration

/-! ## Names and machines -/

section machines

variable {s : Settings} {mode : Mode} {p : Plan} {causes : Fault → Prop}

/-- A name that occurs twice is a text. -/
theorem explained_checkNames {pools : List Pool} : Explained causes (Pool.checkNames pools) := by
  unfold Pool.checkNames
  split
  · exact .error nofun
  · exact .ok ()

/-- An image lacks a name or a group. -/
theorem Image.explained_check {image : Image} : Explained causes image.check := by
  unfold Image.check
  exact .next (.plain nofun) (.plain nofun)

/-- The rules for master nodes quote no number. -/
theorem Master.explained_check {m : Master} {o : Orchestration} :
    Explained causes (m.check o s.patterns) := by
  unfold Master.check checkDnsName
  exact .next (.plain nofun) (.next (.some fun _ _ => Image.explained_check) (.plain nofun))

/-- What is found to be repeated is a member of the list. -/
theorem firstRepeated?_mem {α : Type} [DecidableEq α] {before as : List α} {a : α}
    (h : firstRepeated? before as = some a) : a ∈ as := by
  induction as generalizing before with
  | nil => cases h
  | cons b as ih =>
    by_cases hb : b ∈ before
    · simp only [firstRepeated?, hb, if_true, Option.some.injEq] at h
      simp [h]
    · simp only [firstRepeated?, hb, if_false] at h
      exact List.mem_cons_of_mem b (ih h)

/-- A port that occurs twice is a number of the plan. -/
theorem explained_checkPorts {pool : Pool} (hpool : pool ∈ p.pools) :
    Explained (p.Unstatable s mode) (checkPorts pool.ports pool.name) := by
  unfold checkPorts
  split
  · next port hport =>
    apply Explained.error
    intro hkind
    obtain ⟨n, hquoted, hlong⟩ := Malformed.exists_quoted hkind
    have hn : n = port := by simpa [Malformed.quoted] using hquoted
    subst hn
    have hmem : n ∈ pool.numbers := by simp [Pool.numbers, firstRepeated?_mem hport]
    exact .number hquoted (Plan.mem_numbers_of_pool hpool hmem) hlong
  · exact .ok ()

namespace Pool

/-- Of the rules for public pools the one for ports quotes a number. -/
theorem explained_checkPublic {pool : Pool} (hpool : pool ∈ p.pools) (orchestrator : String) :
    Explained (p.Unstatable s mode) (pool.checkPublic s orchestrator) := by
  unfold checkPublic checkPoolName checkOsType checkDnsName
  refine Explained.next (.plain nofun) ?_
  refine Explained.next (.plain nofun) ?_
  refine Explained.next (.when fun _ => .next (.plain nofun) (.plain nofun)) ?_
  refine Explained.next (.plain nofun) ?_
  exact .when fun _ => .next (.plain nofun) (explained_checkPorts hpool)

/-- The rules for disks and images quote no number. -/
theorem explained_checkEquipment {pool : Pool} : Explained causes pool.checkEquipment := by
  unfold checkEquipment checkDisks
  refine Explained.next (.when fun _ => ?_) (.some fun _ _ => Image.explained_check)
  exact .next (.plain nofun) (.next (.plain nofun) (.plain nofun))

/-- The rule for the key of a label quotes the limit for its domain. -/
theorem explained_checkLabel (label : String × String) :
    Explained (p.Unstatable s mode) (checkLabel s label) := by
  unfold checkLabel checkLabelKey checkLabelValue
  refine Explained.next (.next (.plain nofun) (.refuse fun hkind => ?_)) (.plain nofun)
  obtain ⟨n, hquoted, hlong⟩ := Malformed.exists_quoted hkind
  have hn : n = s.labelDomainLimit := by simpa [Malformed.quoted] using hquoted
  subst hn
  exact .limit hquoted (by simp [Settings.limits]) hlong

/-- Of the other rules for a pool by itself only the one for labels has a limit. -/
theorem explained_checkChoices {pool : Pool} {o : Orchestration} :
    Explained (p.Unstatable s mode) (pool.checkChoices s o) := by
  unfold checkChoices
  refine Explained.next (.plain nofun) ?_
  refine Explained.next (.plain nofun) ?_
  refine Explained.next (.plain nofun) ?_
  refine Explained.next (.plain nofun) ?_
  refine Explained.next (.plain nofun) ?_
  exact .when fun _ => .each fun label _ => explained_checkLabel label

/-- The rules for scale sets read two of the minimums. The version that they compare with these can
be read. -/
theorem explained_checkScaleSet {pool : Pool} (hk : p.orchestration.runs .kubernetes = true) :
    Explained (p.Unstatable s mode) (pool.checkScaleSet s mode p.orchestration) := by
  unfold checkScaleSet
  apply Explained.when
  intro _
  refine Explained.bind Orchestration.explained_resolvedVersion ?_
  intro version hresolved
  have hversion := Orchestration.exists_read_of_resolved hk hresolved
  refine Explained.next ?_ (.next (.when fun _ => ?_) (.plain nofun))
  · exact explained_checkMinimum hversion (by simp [Settings.minimums]) rfl
  · exact explained_checkMinimum hversion (by simp [Settings.minimums]) rfl

end Pool

end machines

/-! ## Access -/

section access

variable {s : Settings} {mode : Mode} {p : Plan} {causes : Fault → Prop}

/-- The address of a certificate is quoted as a text, whatever is wrong with it. -/
theorem VaultSecrets.explained_check {needsStore : Bool} {secrets : VaultSecrets} :
    Explained causes (secrets.check needsStore) := by
  unfold VaultSecrets.check VaultCertificate.check checkCertificateAddress
  refine Explained.next (.plain nofun) (.next (.plain nofun) (.next (.plain nofun) ?_))
  apply Explained.each
  intro certificate _
  refine Explained.next ?_ (.plain nofun)
  split
  · exact .ok ()
  · exact .error nofun

/-- The rules for access with Linux quote no number. -/
theorem LinuxAccess.explained_check {l : LinuxAccess} : Explained causes l.check := by
  unfold LinuxAccess.check
  exact .next (.plain nofun) (.each fun _ _ => VaultSecrets.explained_check)

/-- Nor do those for access with Windows. -/
theorem WindowsAccess.explained_check {w : WindowsAccess} : Explained causes w.check := by
  unfold WindowsAccess.check
  exact .next (.plain nofun) (.next (.plain nofun) (.each fun _ _ => VaultSecrets.explained_check))

/-- A reference to a secret breaks its rule with one of three given faults. -/
theorem SecretReference.explained_check {r : SecretReference} {noVault noSecret malformed : Fault}
    (hvault : noVault.kind ≠ .unspeakable) (hsecret : noSecret.kind ≠ .unspeakable)
    (hmalformed : malformed.kind ≠ .unspeakable) :
    Explained causes (r.check s.patterns noVault noSecret malformed) := by
  unfold SecretReference.check
  exact .next (.plain hvault) (.next (.plain hsecret) (.plain hmalformed))

/-- The rules for the service principal quote texts only. -/
theorem Plan.explained_checkServicePrincipal : Explained causes (p.checkServicePrincipal s) := by
  unfold Plan.checkServicePrincipal ServicePrincipal.checkNeeded
  apply Explained.when
  intro _
  split
  · exact .error nofun
  · unfold ServicePrincipal.check
    refine Explained.next (.plain nofun) (.next (.plain nofun) (.next (.plain nofun) ?_))
    exact .some fun _ _ => SecretReference.explained_check nofun nofun nofun

/-- So do those for the directory. -/
theorem Plan.explained_checkDirectory : Explained causes p.checkDirectory := by
  unfold Plan.checkDirectory Directory.check
  apply Explained.some
  intro d _
  refine Explained.next (.plain nofun) (.next (.plain nofun) (.next (.plain nofun) ?_))
  exact .next (.plain nofun) (.plain nofun)

/-- An account is given or not. -/
theorem Plan.explained_checkAccount : Explained causes p.checkAccount := by
  unfold Plan.checkAccount
  split
  · exact .plain nofun
  · exact .plain nofun

/-- The rules for extensions quote texts only. -/
theorem Plan.explained_checkExtensions : Explained causes (p.checkExtensions s) := by
  unfold Plan.checkExtensions Extension.check
  apply Explained.each
  intro extension _
  exact .some fun _ _ => SecretReference.explained_check nofun nofun nofun

/-- Only a path that has other than four parts has to be explained. -/
theorem Plan.explained_checkSubnets : Explained (p.Unstatable s mode) (p.checkSubnets s) := by
  intro fault h hkind
  rcases checkSubnets_meets.of_error h with hmalformed | hconflict | ⟨rfl, id, hid, hparts⟩
  · rw [hkind] at hmalformed
    cases hmalformed
  · rw [hkind] at hconflict
    cases hconflict
  · exact .subnetParts hid hparts

end access

/-! ## Whole plans -/

section plans

variable {s : Settings} {mode : Mode} {p : Plan}

/-- The rules for Windows have to be explained as far as the version that the plan comes to. -/
theorem Pool.explained_checkWindows {causes : Fault → Prop}
    (hresolved : ∀ windows, Explained causes (p.orchestration.resolvedVersion mode windows)) :
    Explained causes (checkWindows mode p) := by
  unfold checkWindows
  refine Explained.next (.plain nofun) (.next (.when fun _ => ?_) (.next (.plain nofun) ?_))
  · exact .bind (hresolved _) fun _ _ => .plain nofun
  · exact .some fun _ _ => WindowsAccess.explained_check

/-- A visit of a pool ends with one of the rules for its equipment, for its ports or for its place
in the plan. -/
theorem Pool.explained_visit {pool : Pool} (hpool : pool ∈ p.pools) :
    Explained (p.Unstatable s mode) (pool.visit s mode p).2 := by
  rw [visit_snd]
  refine Explained.next ?_ ?_
  · have hpublic : Explained (p.Unstatable s mode)
        (pool.checkPublic s p.orchestration.type) := explained_checkPublic hpool _
    rcases settle_cases s p.orchestration.type pool with ⟨fault, hfault, h⟩ | ⟨-, h⟩
    · rw [h, ← hfault]
      exact hpublic
    · rw [h]
      exact explained_checkEquipment
  · unfold checkWithin checkSameAvailability
    refine Explained.next explained_checkChoices (.next (.when fun hk => ?_) (.when fun _ => ?_))
    · exact .next (explained_checkScaleSet hk) (.plain nofun)
    · exact explained_checkWindows fun _ => Orchestration.explained_resolvedVersion

namespace Plan

/-- The rules before the pools. -/
theorem explained_checkBefore : Explained (p.Unstatable s mode) (p.checkBefore s mode) := by
  unfold checkBefore checkNetworkPlugin checkNetworkPolicy checkNetworkPair checkContainerRuntime
    checkAddons checkMasterStorage
  refine Explained.next explained_checkFields ?_
  refine Explained.next Orchestration.explained_check ?_
  refine Explained.next (.plain nofun) ?_
  refine Explained.next (.next (.plain nofun) (.plain nofun)) ?_
  refine Explained.next (.plain nofun) ?_
  refine Explained.next (.next (.plain nofun) (.plain nofun)) ?_
  refine Explained.next (.plain nofun) ?_
  refine Explained.next Master.explained_check ?_
  exact .next explained_checkNames (.plain nofun)

/-- The rules after the pools. -/
theorem explained_checkAfter : Explained (p.Unstatable s mode) (p.checkAfter s) := by
  unfold checkAfter checkWindowsImage
  refine Explained.next LinuxAccess.explained_check ?_
  refine Explained.next explained_checkSubnets ?_
  refine Explained.next explained_checkServicePrincipal ?_
  refine Explained.next explained_checkDirectory ?_
  refine Explained.next explained_checkAccount ?_
  exact .next explained_checkExtensions (.plain nofun)

/-- A run stops at a rule before the pools, at a pool, or at a rule after them. -/
theorem explained_validate : Explained (p.Unstatable s mode) (p.validate s mode).2 := by
  rcases validate_cases s mode p with
    ⟨fault, hbefore, h⟩ | ⟨-, before, pool, after, fault, hpools, -, hpool, h⟩ | ⟨-, -, h⟩
  · rw [h, ← hbefore]
    exact explained_checkBefore
  · rw [h, ← hpool]
    have hmem : pool ∈ p.pools := by rw [hpools]; simp
    exact Pool.explained_visit hmem
  · rw [h]
    exact explained_checkAfter

/-- **What validation answers.** A plan is accepted, or it is rejected with a diagnostic of one of
the four kinds, or a number in it or among the settings cannot be written or read, or the address of
its name service is the last one in some zone, or the pattern for subnets makes other than four
parts of a path in it, and then there is no diagnostic. -/
theorem validate_explained (s : Settings) (mode : Mode) (p : Plan) :
    (p.validate s mode).2 = .ok () ∨
      ∃ fault, (p.validate s mode).2 = .error fault ∧
        (fault.kind = .malformed ∨ fault.kind = .conflict ∨ fault.kind = .missing ∨
          fault.kind = .unsupported ∨ p.Unstatable s mode fault) := by
  cases h : (p.validate s mode).2 with
  | ok => exact .inl rfl
  | error fault =>
    refine .inr ⟨fault, rfl, ?_⟩
    cases hkind : fault.kind with
    | malformed => exact .inl rfl
    | conflict => exact .inr (.inl rfl)
    | missing => exact .inr (.inr (.inl rfl))
    | unsupported => exact .inr (.inr (.inr (.inl rfl)))
    | unspeakable =>
      exact .inr (.inr (.inr (.inr (explained_validate fault h hkind))))

/-- A new cluster whose name service is at the end of all addresses. -/
def edge : Plan where
  orchestration := ⟨"Kubernetes", "", "", some
    ⟨"", "", "", "", "", 0, "", "ffff:ffff:ffff:ffff:ffff:ffff:ffff:ffff%eth0",
      "ffff:ffff:ffff:ffff:ffff:ffff:ffff:ffff/128", false, none, none, none, false, none, none,
      none, "", "", none, "", false, false, [], .empty, .empty⟩, none, none⟩
  master := ⟨1, "masterdns1", "Standard_D2_v2", 0, "", "", "", "", none⟩
  pools := [⟨"workers", 1, "Standard_D2_v2", 0, "", "", [], "AvailabilitySet", "", [], "", none, "",
    .empty⟩]
  linux := ⟨"azureuser", ⟨[⟨"ssh-rsa AAAA"⟩]⟩, []⟩
  windows := none
  servicePrincipal := some ⟨"client", "secret", "", none⟩
  directory := none
  account := none
  extensions := []

/-- Nothing about the plan is out of the ordinary but its name service, and its fault has no
diagnostic. -/
theorem edge_unstatable :
    ∃ fault, (edge.validate .standard .create).2 = .error fault ∧ fault.kind = .unspeakable := by
  have hfault : (edge.validate .standard .create).2 = .error .pastLastAddress := by rfl
  exact ⟨.pastLastAddress, hfault, rfl⟩

end Plan

end plans

end ClusterPlan
