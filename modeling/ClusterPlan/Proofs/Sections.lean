import ClusterPlan.Proofs.Acceptance
import ClusterPlan.Proofs.Access

/-!
# Every section belongs to the orchestrator

A plan has sections that make sense for some orchestrators only, and the rules that keep them apart
are spread over the whole validation: some stand with the orchestrator, some with the pools, some
after them, and on an update some of the first are left out. `Plan.SectionsBelong` collects what
holds in the end, `Pool.SectionsBelong` the part about a pool. `Plan.sectionsBelong_of_accepted`
derives both for every plan that is accepted, in either mode.
-/

namespace ClusterPlan

/-- What a pool asks for belongs to the orchestrator of its plan. -/
structure Pool.SectionsBelong (plan : Plan) (p : Pool) : Prop where
  publicName : p.dnsPrefix ≠ "" ∨ p.ports ≠ [] → plan.orchestration.runs .kubernetes = false
  role : p.role ≠ "" → p.role = "infra" ∧ plan.orchestration.runs .openShift = true
  labels : p.nodeLabels.entries ≠ [] →
    plan.orchestration.runs .dcos = true ∨ plan.orchestration.runs .kubernetes = true
  windows : p.osType = "Windows" → plan.orchestration.runs .openShift = false ∧
    ∃ access ∈ plan.windows, access.adminUsername ≠ "" ∧ access.adminPassword ≠ ""

/-- What OpenShift asks of a cluster, and of its credentials when it is new. -/
structure Plan.SuitsOpenShift (mode : Mode) (p : Plan) : Prop where
  masterCount : p.master.count = 1
  masterStorage : p.master.storageProfile = "ManagedDisks"
  poolStorage : ∀ pool ∈ p.pools, pool.storageProfile = "ManagedDisks"
  grouping : ∀ pool ∈ p.pools, pool.availabilityProfile = "AvailabilitySet"
  credentials : mode = .create →
    ∃ c ∈ p.orchestration.openShift, c.clusterUsername ≠ "" ∧ c.clusterPassword ≠ ""

/-- No section of a plan belongs to another orchestrator. -/
structure Plan.SectionsBelong (mode : Mode) (p : Plan) : Prop where
  known : p.orchestration.type ∈ ["DCOS", "Swarm", "SwarmMode", "Kubernetes", "OpenShift"]
  kubernetes : p.orchestration.kubernetes ≠ none →
    p.orchestration.runs .kubernetes = true ∨ p.orchestration.runs .openShift = true
  openShift : p.orchestration.openShift ≠ none → p.orchestration.runs .openShift = true
  dcos : ∀ d ∈ p.orchestration.dcos,
    d.bootstrapURL ≠ "" ∨ d.windowsBootstrapURL ≠ "" ∨ d.repositoryURL ≠ "" ∨
      d.clusterPackageListID ≠ "" ∨ d.providerPackageID ≠ "" ∨ d.bootstrap ≠ none →
    p.orchestration.runs .dcos = true
  directory : p.directory ≠ none → p.orchestration.runs .kubernetes = true
  account : p.account ≠ none ↔ p.orchestration.runs .openShift = true
  accountParts : ∀ a ∈ p.account,
    a.tenantId ≠ "" ∧ a.subscriptionId ≠ "" ∧ a.resourceGroup ≠ "" ∧ a.location ≠ ""
  pools : ∀ pool ∈ p.pools, pool.SectionsBelong p
  windowsImage : ∀ access ∈ p.windows, access.imageSourceURL ≠ "" →
    p.orchestration.runs .dcos = true ∨ p.orchestration.runs .kubernetes = true
  suitsOpenShift : p.orchestration.runs .openShift = true → p.SuitsOpenShift mode

/-- A section for DC/OS is empty unless one of its fields is given. -/
theorem Dcos.isEmpty_eq_false {d : Dcos} :
    d.isEmpty = false ↔
      d.bootstrapURL ≠ "" ∨ d.windowsBootstrapURL ≠ "" ∨ d.repositoryURL ≠ "" ∨
        d.clusterPackageListID ≠ "" ∨ d.providerPackageID ≠ "" ∨ d.bootstrap ≠ none := by
  simp [isEmpty, Bool.and_eq_false_imp, or_iff_not_imp_left, Option.isSome_iff_ne_none]

namespace Plan

variable {s : Settings} {mode : Mode} {p : Plan}

theorem Lawful.poolSections (h : p.Lawful s mode) {pool : Pool} (hpool : pool ∈ p.pools) :
    pool.SectionsBelong p := by
  have hrules := h.pools pool hpool
  obtain ⟨-, -, hrole, -, hlabels, -⟩ := Pool.checkChoices_eq_ok.1 hrules.choices
  obtain ⟨-, -, hkubernetes, -⟩ := Pool.checkPublic_eq_ok.1 hrules.publicName
  refine ⟨?_, ?_, hlabels, ?_⟩
  · intro hpublic
    by_contra hk
    obtain ⟨hdns, hports⟩ := hkubernetes (Orchestration.runs_eq_true.1 (by simpa using hk))
    exact hpublic.elim (· hdns) (· hports)
  · intro hsome
    obtain ⟨hopenShift, hinfra⟩ := hrole.resolve_left hsome
    exact ⟨hinfra, hopenShift⟩
  · intro hos
    have hwindows := hrules.windows (Pool.isWindows_eq_true.2 hos)
    obtain ⟨⟨orchestrator, hallowed, hruns⟩, -, access, haccess, hcheck⟩ :=
      Pool.checkWindows_eq_ok.1 hwindows
    obtain ⟨hname, hpassword, -⟩ := WindowsAccess.check_eq_ok.1 hcheck
    refine ⟨?_, access, haccess, hname, hpassword⟩
    by_contra hopenShift
    obtain rfl := Orchestration.runs_unique hruns (by simpa using hopenShift)
    exact absurd hallowed (by decide)

theorem Lawful.suitsOpenShift (h : p.Lawful s mode)
    (ho : p.orchestration.runs .openShift = true) : p.SuitsOpenShift mode := by
  have hchoices := fun pool hpool => Pool.checkChoices_eq_ok.1 (h.pools pool hpool).choices
  have hmaster := h.master
  simp only [Master.check, then_eq_ok, refuse_eq_ok, ho] at hmaster
  have hstorage := h.masterStorage
  simp only [checkMasterStorage, refuse_eq_ok, ho] at hstorage
  refine ⟨by simpa using hmaster.1, by simpa [Pool.managedDisks] using hstorage, ?_, ?_, ?_⟩
  · intro pool hpool
    obtain ⟨-, -, -, hdisks, -⟩ := hchoices pool hpool
    exact hdisks ho
  · intro pool hpool
    obtain ⟨-, hgrouping, -⟩ := hchoices pool hpool
    exact hgrouping ho
  · rintro rfl
    have hown := ((Orchestration.check_eq_ok_of_runs ho).1 h.orchestration).1
    exact (Orchestration.checkOpenShift_eq_ok.1 hown).2

/-- OpenShift has an account with all its parts, and the others have none. -/
theorem Lawful.account_iff (h : p.Lawful s mode) :
    (p.account ≠ none ↔ p.orchestration.runs .openShift = true) ∧
      ∀ a ∈ p.account, a.isComplete = true := by
  have hrule := checkAccount_eq_ok.1 h.account
  split at hrule
  case isTrue ho =>
    obtain ⟨a, ha, hcomplete⟩ := hrule
    rw [Option.mem_def] at ha
    simp [ha, ho, hcomplete]
  case isFalse ho => simp [hrule, ho]

theorem Lawful.sectionsBelong (h : p.Lawful s mode) : p.SectionsBelong mode := by
  obtain ⟨⟨orchestrator, hruns, -⟩, hsections⟩ := Orchestration.check_eq_ok.1 h.orchestration
  obtain ⟨hkubernetes, hopenShift, hdcos⟩ := Orchestration.checkSections_eq_ok.1 hsections
  obtain ⟨haccount, hcomplete⟩ := h.account_iff
  exact {
    known := by
      rw [Orchestration.runs_eq_true.1 hruns]
      cases orchestrator <;> decide
    kubernetes := hkubernetes
    openShift := hopenShift
    dcos := fun d hd hgiven => hdcos d hd (Dcos.isEmpty_eq_false.2 hgiven)
    directory := fun hsome => by
      obtain ⟨d, hd⟩ := Option.ne_none_iff_exists'.1 hsome
      exact (checkDirectory_eq_ok.1 h.directory d hd).1
    account := haccount
    accountParts := fun a ha => by
      have := hcomplete a ha
      simp only [Account.isComplete, Bool.and_eq_true] at this
      simpa [and_comm, and_left_comm, and_assoc] using this
    pools := fun pool hpool => h.poolSections hpool
    windowsImage := checkWindowsImage_eq_ok.1 h.windowsImage
    suitsOpenShift := h.suitsOpenShift }

/-- **Every section belongs to the orchestrator.** No plan that is accepted, for a new cluster or
for an existing one, has a section of another orchestrator. -/
theorem sectionsBelong_of_accepted (s : Settings) (mode : Mode) (p : Plan)
    (h : (p.validate s mode).2 = .ok ()) : p.SectionsBelong mode :=
  (accepted_iff_lawful.1 h).sectionsBelong

/-- An OpenShift cluster with a pool of nodes for its infrastructure. -/
def console : Plan where
  orchestration := ⟨"OpenShift", "", "3.9.0", none, none, some ⟨"admin", "secret"⟩⟩
  master := ⟨1, "masterdns1", "Standard_D4s_v3", 0, "", "", "", "ManagedDisks", none⟩
  pools :=
    [⟨"compute", 2, "Standard_D4s_v3", 0, "", "Linux", [], "AvailabilitySet", "ManagedDisks", [],
        "", none, "", .empty⟩,
      ⟨"infra", 1, "Standard_D4s_v3", 0, "console", "", [443], "AvailabilitySet", "ManagedDisks",
        [64], "", none, "infra", .empty⟩]
  linux := ⟨"azureuser", ⟨[⟨"ssh-rsa AAAA"⟩]⟩, []⟩
  windows := none
  servicePrincipal := none
  directory := none
  account := some ⟨"tenant", "subscription", "group", "westeurope"⟩
  extensions := []

theorem console_sectionsBelong :
    (console.validate .standard .create).2 = .ok () ∧ console.SectionsBelong .create := by
  have haccepted : (console.validate .standard .create).2 = .ok () := by rfl
  exact ⟨haccepted, sectionsBelong_of_accepted .standard .create console haccepted⟩

end Plan

end ClusterPlan
