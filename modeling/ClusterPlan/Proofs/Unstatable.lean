import ClusterPlan.Proofs.MinorRelease
import ClusterPlan.Proofs.Subnet
import ClusterPlan.Rules.Field
import ClusterPlan.Rules.Network

/-!
# Faults without a diagnostic

A rejected plan gets a diagnostic of one of four kinds, save for the faults that no diagnostic can
state. `Plan.Unstatable` lists what may lead to such a fault:

* a number of the plan, or a limit among the settings, that is too long to be written;
* a version with a number too long to be read, which an existing cluster asks for or which the
  settings name as a minimum;
* a name service at the last of all addresses, in some zone, whose network begins there;
* a pattern for the paths of subnets that makes other than four parts of one.

An outcome is `Explained` if it is no such fault but for one of these causes. Most rules quote no
number, read no version and go past no address, so there is nothing to explain (`Explained.plain`).
Here are the rules for which there is: those for the fields, whose diagnostics quote numbers, and
those that read a version. A version that Kubernetes comes to can always be read
(`Orchestration.exists_read_of_resolved`).
-/

namespace ClusterPlan

open Catalogue

/-! ## Outcomes -/

/-- If the outcome is a fault that no diagnostic can state, the fault has one of the causes. -/
def Explained {α : Type} (causes : Fault → Prop) (outcome : Except Fault α) : Prop :=
  ∀ fault, outcome = .error fault → fault.kind = .unspeakable → causes fault

namespace Explained

variable {α β : Type} {causes : Fault → Prop}

theorem ok (a : α) : Explained causes (.ok a) := by
  intro fault h
  cases h

theorem error {fault : Fault} (h : fault.kind = .unspeakable → causes fault) :
    Explained causes (.error fault : Except Fault α) := by
  intro fault' heq hkind
  cases heq
  exact h hkind

theorem bind {step : Except Fault α} {next : α → Except Fault β} (hstep : Explained causes step)
    (hnext : ∀ a, step = .ok a → Explained causes (next a)) : Explained causes (step >>= next) := by
  cases step with
  | ok a => exact hnext a rfl
  | error fault =>
    intro fault' heq hkind
    cases heq
    exact hstep fault rfl hkind

/-- Two rules, one after the other. -/
theorem next {first second : Verdict} (hfirst : Explained causes first)
    (hsecond : Explained causes second) : Explained causes (do first; second) :=
  bind hfirst fun _ _ => hsecond

theorem discard {step : Except Fault α} (h : Explained causes step) :
    Explained causes (discard step : Verdict) := by
  cases step with
  | ok a => exact ok ()
  | error fault =>
    intro fault' heq hkind
    cases heq
    exact h fault rfl hkind

theorem refuse {broken : Bool} {fault : Fault} (h : fault.kind = .unspeakable → causes fault) :
    Explained causes (refuse broken fault) := by
  cases broken with
  | false => exact ok ()
  | true => exact error h

/-- A rule with a fault that a diagnostic can state. -/
theorem plain {broken : Bool} {fault : Fault} (h : fault.kind ≠ .unspeakable) :
    Explained causes (ClusterPlan.refuse broken fault) :=
  refuse fun hkind => absurd hkind h

theorem when {condition : Bool} {rule : Verdict} (h : condition = true → Explained causes rule) :
    Explained causes (checkWhen condition rule) := by
  cases condition with
  | false => exact ok ()
  | true => exact h rfl

theorem some {rule : α → Verdict} {value : Option α}
    (h : ∀ a, value = .some a → Explained causes (rule a)) :
    Explained causes (checkSome rule value) := by
  cases value with
  | none => exact ok ()
  | some a => exact h a rfl

theorem each {rule : α → Verdict} {as : List α} (h : ∀ a ∈ as, Explained causes (rule a)) :
    Explained causes (checkEach rule as) := by
  induction as with
  | nil => exact ok ()
  | cons a as ih =>
    rw [List.forall_mem_cons] at h
    exact next h.1 (ih h.2)

end Explained

/-- A diagnostic of a malformed value that cannot be written quotes a number that cannot. -/
theorem Malformed.exists_quoted {cause : Malformed}
    (h : (Fault.malformed cause).kind = .unspeakable) :
    ∃ n ∈ cause.quoted, Numeral.isWritable n = false := by
  by_cases hall : cause.quoted.all Numeral.isWritable = true
  · simp [Fault.kind, hall] at h
  · simpa using hall

/-! ## Causes -/

/-- The numbers of a pool. -/
def Pool.numbers (p : Pool) : List Int :=
  [p.count, p.osDiskSizeGB] ++ p.ports ++ p.diskSizesGB

/-- The numbers of a plan. -/
def Plan.numbers (p : Plan) : List Int :=
  [p.master.count, p.master.osDiskSizeGB] ++ p.pools.flatMap Pool.numbers ++
    p.kubernetes.toList.map Kubernetes.maxPods

/-- The limits among the settings that a diagnostic may quote. -/
def Settings.limits (s : Settings) : List Int :=
  [s.minMaxPods, s.minKubeletRetries, s.labelDomainLimit]

/-- The least versions for features. -/
def Settings.minimums (s : Settings) : List String :=
  [s.aggregatedAPIsMinimum, s.dataEncryptionMinimum, s.podSecurityMinimum, s.externalKmsMinimum,
    s.cloudControllerMinimum, s.scaleSetMinimum, s.scaleSetMetadataMinimum]

/-- The last IPv6 address, in a zone if one is given. -/
def Address.lastV6 (zone : Option String) : Address := .v6 (BitVec.allOnes 128) zone

/-- Why the validation of a plan may end in a fault that no diagnostic can state. -/
inductive Plan.Unstatable (s : Settings) (mode : Mode) (p : Plan) : Fault → Prop where
  /-- A number of the plan is too long to be quoted. -/
  | number {cause : Malformed} {n : Int} (hquoted : n ∈ cause.quoted) (hnumber : n ∈ p.numbers)
      (hlong : Numeral.isWritable n = false) : Unstatable s mode p (.malformed cause)
  /-- A limit is too long to be quoted with a value that breaks it. -/
  | limit {cause : Malformed} {n : Int} (hquoted : n ∈ cause.quoted) (hlimit : n ∈ s.limits)
      (hlong : Numeral.isWritable n = false) : Unstatable s mode p (.malformed cause)
  /-- The number of reports is too long to be quoted. -/
  | retries {grace update : Duration} (hlong : Numeral.isWritable s.minKubeletRetries = false) :
      Unstatable s mode p (.conflict (.retries grace update s.minKubeletRetries))
  /-- An existing cluster asks for a version with a number too long to be read. -/
  | version (hmode : mode = .update)
      (hlong : Version.read (dropV p.orchestration.version) = .error .overlong) :
      Unstatable s mode p .overlongVersion
  /-- A minimum has a number too long to be read. -/
  | minimum {text : String} (hminimum : text ∈ s.minimums)
      (hlong : Version.read (dropV text) = .error .overlong) : Unstatable s mode p .overlongVersion
  /-- The name service has the last of all addresses, in a zone that is not the one of the network
  of the services, and that network begins with the same address. -/
  | lastAddress {k : Kubernetes} {n : Network} {zone zone' : Option String}
      (hmode : mode = .create) (hk : p.kubernetes = some k)
      (haddress : Address.read? k.dnsServiceIP = some (.lastV6 zone))
      (hnetwork : Network.read? k.serviceCidr = some n) (hfirst : n.first = .lastV6 zone')
      (hzone : zone ≠ none) (hzones : zone ≠ zone') : Unstatable s mode p .pastLastAddress
  /-- The pattern for subnets makes other than four parts of the path of some node. -/
  | subnetParts {id : String} (hid : id ∈ p.subnetIDs) (hparts : MakesOtherParts s.patterns id) :
      Unstatable s mode p .subnetParts

/-! ## Fields -/

section fields

variable {s : Settings} {mode : Mode} {p : Plan} {path : String} {value : Int}

/-- Everything that fits into sixteen bits can be written. -/
theorem Numeral.isWritable_of_le {n : Int} (h : n.natAbs ≤ 65535) : isWritable n = true := by
  have hpower : 65535 < tenTo digitLimit := by decide +kernel
  simp only [isWritable, decide_eq_true_eq]
  omega

theorem explained_checkText {causes : Fault → Prop} (text : String) :
    Explained causes (checkText text path) :=
  .plain nofun

theorem explained_checkRange {low high : Int} (hlow : low.natAbs ≤ 65535)
    (hhigh : high.natAbs ≤ 65535) (hvalue : value ∈ p.numbers) :
    Explained (p.Unstatable s mode) (checkRange value low high path) := by
  apply Explained.refuse
  intro hkind
  obtain ⟨n, hquoted, hlong⟩ := Malformed.exists_quoted hkind
  have hn : n = low ∨ n = high ∨ n = value := by simpa [Malformed.quoted] using hquoted
  rcases hn with rfl | rfl | rfl
  · exact absurd (Numeral.isWritable_of_le hlow) (by simp [hlong])
  · exact absurd (Numeral.isWritable_of_le hhigh) (by simp [hlong])
  · exact .number hquoted hvalue hlong

theorem explained_checkOneOf {allowed : List Int} (hallowed : ∀ n ∈ allowed, n.natAbs ≤ 65535)
    (hvalue : value ∈ p.numbers) :
    Explained (p.Unstatable s mode) (checkOneOf value allowed path) := by
  apply Explained.refuse
  intro hkind
  obtain ⟨n, hquoted, hlong⟩ := Malformed.exists_quoted hkind
  rcases List.mem_cons.1 hquoted with rfl | hmem
  · exact .number hquoted hvalue hlong
  · exact absurd (Numeral.isWritable_of_le (hallowed n hmem)) (by simp [hlong])

theorem Plan.mem_numbers_of_pool {pool : Pool} (hpool : pool ∈ p.pools)
    (hvalue : value ∈ pool.numbers) : value ∈ p.numbers := by
  have hflat : value ∈ p.pools.flatMap Pool.numbers := List.mem_flatMap.2 ⟨pool, hpool, hvalue⟩
  simp [Plan.numbers, hflat]

theorem Master.explained_checkFields : Explained (p.Unstatable s mode) p.master.checkFields := by
  unfold Master.checkFields
  have hcount : p.master.count ∈ p.numbers := by simp [Plan.numbers]
  have hdisk : p.master.osDiskSizeGB ∈ p.numbers := by simp [Plan.numbers]
  refine Explained.next (explained_checkOneOf (by decide) hcount) ?_
  refine Explained.next (explained_checkText _) ?_
  refine Explained.next (explained_checkText _) ?_
  exact explained_checkRange (by decide) (by decide) hdisk

theorem Pool.explained_checkFields {pool : Pool} (hpool : pool ∈ p.pools) (position : Int) :
    Explained (p.Unstatable s mode) (pool.checkFields position) := by
  have hmem : ∀ n ∈ pool.numbers, n ∈ p.numbers := fun _ => Plan.mem_numbers_of_pool hpool
  unfold Pool.checkFields
  refine Explained.next (explained_checkText _) ?_
  refine Explained.next ?_ ?_
  · exact explained_checkRange (by decide) (by decide) (hmem _ (by simp [Pool.numbers]))
  refine Explained.next (explained_checkText _) ?_
  refine Explained.next ?_ ?_
  · exact explained_checkRange (by decide) (by decide) (hmem _ (by simp [Pool.numbers]))
  refine Explained.next ?_ ?_
  · apply Explained.each
    intro port hport
    exact explained_checkRange (by decide) (by decide) (hmem _ (by simp [Pool.numbers, hport]))
  refine Explained.next (.plain nofun) ?_
  apply Explained.each
  intro size hsize
  exact explained_checkRange (by decide) (by decide) (hmem _ (by simp [Pool.numbers, hsize]))

theorem Pool.explained_checkAllFields {pools : List Pool} (hpools : ∀ pool ∈ pools, pool ∈ p.pools)
    (position : Nat) : Explained (p.Unstatable s mode) (Pool.checkAllFields position pools) := by
  induction pools generalizing position with
  | nil => exact .ok ()
  | cons pool pools ih =>
    rw [List.forall_mem_cons] at hpools
    exact .next (pool.explained_checkFields hpools.1 position) (ih hpools.2 (position + 1))

theorem Plan.explained_checkFields : Explained (p.Unstatable s mode) p.checkFields := by
  unfold Plan.checkFields LinuxAccess.checkFields
  refine Explained.next Master.explained_checkFields ?_
  refine Explained.next (Pool.explained_checkAllFields (fun _ h => h) 0) ?_
  exact .next (explained_checkText _) (.plain nofun)

end fields

/-! ## Versions -/

namespace Catalogue

/-- What a request comes to is offered, or is the default. -/
theorem mem_offered_of_resolve {c : Catalogue} {release version text : String}
    (h : c.resolve release version = some text) : text = c.default ∨ text ∈ c.offered := by
  by_cases hversion : dropV version = ""
  · by_cases hrelease : dropV release = ""
    · rw [resolve_default hrelease hversion] at h
      exact .inl (Option.some.inj h).symm
    · rw [resolve_release hrelease hversion] at h
      exact .inr (newestPatch_eq_some h).1
  · obtain ⟨htext, hoffered⟩ := (series_of_resolve h).2 hversion
    exact .inr hoffered

/-- The search for a patch fails only with a version that has a number too long to be read. -/
theorem overlong_of_patchVersion {orchestrator version : String}
    (h : patchVersion orchestrator version = .error .overlong) :
    Version.read (dropV version) = .error .overlong := by
  unfold patchVersion at h
  split at h
  · unfold patchFor at h
    split at h
    · cases h
    · split at h
      · cases h
      · cases h
      · next hread => exact hread
  · split at h
    · next hread => exact hread
    · cases h

end Catalogue

section versions

variable {s : Settings} {mode : Mode} {windows : Bool} {p : Plan} {o : Orchestration}
  {version : String}

/-- Kubernetes comes to a version that can be read. -/
theorem Orchestration.exists_read_of_resolved (hk : o.runs .kubernetes = true)
    (h : o.resolvedVersion mode windows = .ok version) :
    ∃ v, Version.read (dropV version) = .ok v := by
  have hoffered : ∃ windows, version ∈ (Catalogue.of windows .kubernetes).offered := by
    have hdefault : ∀ windows, (Catalogue.of windows .kubernetes).default ∈
        (Catalogue.of windows .kubernetes).offered := by
      intro windows
      cases windows with
      | false => exact default_mem_offered false .kubernetes
      | true => exact default_mem_offered true .kubernetes
    have hcatalogue : ∃ windows release requested,
        (Catalogue.of windows .kubernetes).resolve release requested = some version := by
      rcases resolvedVersion_eq_ok.1 h with hresolved | ⟨-, -, hpatch⟩
      · rw [resolveVersion_kubernetes hk] at hresolved
        exact ⟨windows, _, _, hresolved⟩
      · rw [patchVersion_kubernetes hk] at hpatch
        by_cases hempty : o.version = ""
        · rw [hempty] at hpatch
          exact ⟨false, "", "", Except.ok.inj hpatch⟩
        · obtain ⟨v, -, hresolved⟩ := (patchFor_eq_some hempty).1 hpatch
          exact ⟨false, _, _, hresolved⟩
    obtain ⟨windows, release, requested, hresolved⟩ := hcatalogue
    rcases mem_offered_of_resolve hresolved with rfl | hmem
    · exact ⟨windows, hdefault windows⟩
    · exact ⟨windows, hmem⟩
  obtain ⟨windows, hmem⟩ := hoffered
  rw [(dropV_of_mem_offered hmem).1]
  exact read_of_mem_offered hmem

/-- A request that comes to no version is stated as it is, unless an existing cluster asks for a
version that cannot be read. -/
theorem Orchestration.resolvedVersion_eq_error {fault : Fault}
    (h : o.resolvedVersion mode windows = .error fault) :
    fault = o.unresolved ∨
      (mode = .update ∧ Version.read (dropV o.version) = .error .overlong ∧
        fault = .overlongVersion) := by
  unfold resolvedVersion at h
  split at h
  · cases h
  · split at h
    · exact .inl (Except.error.inj h).symm
    · split at h
      · cases h
      · exact .inl (Except.error.inj h).symm
      · exact .inl (Except.error.inj h).symm
      · next hpatch =>
        exact .inr ⟨rfl, overlong_of_patchVersion hpatch, (Except.error.inj h).symm⟩

theorem Orchestration.explained_resolvedVersion :
    Explained (p.Unstatable s mode) (p.orchestration.resolvedVersion mode windows) := by
  intro fault h hkind
  rcases resolvedVersion_eq_error h with rfl | ⟨hmode, hlong, rfl⟩
  · cases hkind
  · exact .version hmode hlong

theorem explained_readVersion {causes : Fault → Prop} {text : String} {otherwise : Malformed}
    (hquoted : otherwise.quoted = [])
    (hlong : Version.read (dropV text) = .error .overlong → causes .overlongVersion) :
    Explained causes (readVersion text otherwise) := by
  unfold readVersion
  cases hread : Version.read (dropV text) with
  | ok v => exact .ok v
  | error fault =>
    cases fault with
    | overlong => exact .error fun _ => hlong hread
    | malformed =>
      apply Explained.error
      intro hkind
      obtain ⟨n, hn, -⟩ := Malformed.exists_quoted hkind
      rw [hquoted] at hn
      cases hn

/-- A version that can be read is compared with a minimum. -/
theorem explained_checkMinimum {minimum : String} {conflict : Conflict}
    (hversion : ∃ v, Version.read (dropV version) = .ok v) (hminimum : minimum ∈ s.minimums)
    (hquoted : conflict.quoted = []) :
    Explained (p.Unstatable s mode) (checkMinimum version minimum conflict) := by
  obtain ⟨v, hv⟩ := hversion
  unfold checkMinimum meetsMinimum
  refine Explained.bind ?_ ?_
  · refine Explained.bind ?_ ?_
    · exact explained_readVersion rfl fun hlong => by cases hv.symm.trans hlong
    intro _ _
    refine Explained.bind ?_ ?_
    · exact explained_readVersion rfl fun hlong => .minimum hminimum hlong
    intro _ _
    exact .ok _
  · intro met _
    apply Explained.plain
    simp [Fault.kind, hquoted]

end versions

end ClusterPlan
