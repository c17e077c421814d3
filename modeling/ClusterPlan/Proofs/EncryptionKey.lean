import ClusterPlan.Proofs.NameGrammar
import ClusterPlan.Proofs.Orchestration
import ClusterPlan.Proofs.Services
import ClusterPlan.Proofs.VersionOrder

/-!
# Keys for stored data

A text in base 64 has whole groups of four characters, of which the last one may end in one or two
padding signs (`Padded`). The decoder goes from state to state. As long as it has seen no padding,
only the number of characters in the open group matters, and what is left of the text must close
that group (`Closes`). A group of two or three characters is closed by exactly as many signs as it
is short of. Where no group is open there is nothing to close, and any number of signs may follow,
so the decoder also takes whole groups with padding after them (`Overfilled`).

The alphabet of keys is the one for URLs, which has a hyphen and an underscore, but the plus sign
and the slash of the standard alphabet remain in it. So the rule for keys takes more than the keys
for URLs, and `encryptionKey_decided` says how much more.
-/

namespace ClusterPlan

namespace Text.Base64

open Identifier

/-! ## The decoder -/

section decoder

variable {alphabet : Char → Option Nat} {st : State} {bits : Nat} {cs data : List Char}

theorem State.filled_push : ∀ {st : State}, st.filled < 4 →
    (st.push bits).filled = (st.filled + 1) % 4
  | ⟨0, _, _, _, _⟩, _ => rfl
  | ⟨1, _, _, _, _⟩, _ => rfl
  | ⟨2, _, _, _, _⟩, _ => rfl
  | ⟨3, _, _, _, _⟩, _ => by simp [push]

theorem State.pads_push : (st.push bits).pads = 0 := by
  unfold State.push
  dsimp only
  split <;> rfl

theorem State.padded_push : (st.push bits).padded = st.padded := by
  unfold State.push
  dsimp only
  split <;> rfl

/-- Some padding signs close a group with some characters. -/
def Closes (filled pads : Nat) : Prop :=
  filled = 0 ∨ (filled = 2 ∧ pads = 2) ∨ (filled = 3 ∧ pads = 1)

/-- Where only padding is left, it closes the open group together with the padding before it. -/
theorem isSome_replicate_iff (n : Nat) (h : st.filled + st.pads < 4) :
    (decodeFrom alphabet true st (List.replicate n '=')).isSome = true ↔
      Closes st.filled (st.pads + n) := by
  induction n generalizing st with
  | zero =>
    rw [List.replicate_zero, decodeFrom, Closes]
    split <;> simp <;> omega
  | succ n ih =>
    rw [List.replicate_succ, decodeFrom, if_pos (beq_self_eq_true '=')]
    split
    · next hopen =>
      split
      · next hclosed =>
        cases n with
        | zero => simp [Closes]; omega
        | succ n => simp [Closes, List.replicate_succ]; omega
      · next hclosed =>
        rw [ih (by dsimp only; omega)]
        simp only [Closes]
        omega
    · next hopen =>
      have hafter : ({ st with padded := true } : State).filled + st.pads < 4 := h
      rw [ih hafter]
      simp only [Closes]
      omega

/-- What the decoder takes are characters of the alphabet and then padding, and after padding there
is only padding. -/
theorem exists_data_of_isSome (h : (decodeFrom alphabet true st cs).isSome = true) :
    ∃ data n, cs = data ++ List.replicate n '=' ∧ (∀ c ∈ data, (alphabet c).isSome = true) ∧
      (st.padded = true → data = []) := by
  induction cs generalizing st with
  | nil => exact ⟨[], 0, rfl, by simp, fun _ => rfl⟩
  | cons c cs ih =>
    rw [decodeFrom] at h
    split at h
    · next hc =>
      -- the text ends with this sign, or the decoder goes on from a state with padding
      obtain rfl := eq_of_beq hc
      have hrest : ∀ {after : State}, after.padded = true →
          (decodeFrom alphabet true after cs).isSome = true →
          ∃ n, cs = List.replicate n '=' := by
        intro after hpadded hafter
        obtain ⟨data, n, hcs, -, hdata⟩ := ih hafter
        rw [hdata hpadded] at hcs
        exact ⟨n, hcs⟩
      obtain ⟨n, rfl⟩ : ∃ n, cs = List.replicate n '=' := by
        split at h
        · split at h
          · cases cs with
            | nil => exact ⟨0, rfl⟩
            | cons d cs => simp at h
          · exact hrest rfl h
        · exact hrest rfl h
      exact ⟨[], n + 1, rfl, by simp, fun _ => rfl⟩
    · split at h
      · simp at h
      · next bits hbits =>
        split at h
        · simp at h
        · next hpadded =>
          obtain ⟨data, n, rfl, hdata, -⟩ := ih h
          refine ⟨c :: data, n, rfl, ?_, fun hpadded' => absurd hpadded' (by simpa using hpadded)⟩
          exact List.forall_mem_cons.2 ⟨Option.isSome_of_eq_some hbits, hdata⟩

/-- Characters of the alphabet go into the open group one after the other. -/
theorem exists_decodeFrom_append (hpadded : st.padded = false) (hpads : st.pads = 0)
    (hfilled : st.filled < 4) (hsign : alphabet '=' = none)
    (hdata : ∀ c ∈ data, (alphabet c).isSome = true) (rest : List Char) :
    ∃ after : State, after.padded = false ∧ after.pads = 0 ∧
      after.filled = (st.filled + data.length) % 4 ∧
      decodeFrom alphabet true st (data ++ rest) = decodeFrom alphabet true after rest := by
  induction data generalizing st with
  | nil => exact ⟨st, hpadded, hpads, (Nat.mod_eq_of_lt hfilled).symm, rfl⟩
  | cons c data ih =>
    obtain ⟨hc, hdata⟩ := List.forall_mem_cons.1 hdata
    obtain ⟨bits, hbits⟩ := Option.isSome_iff_exists.1 hc
    have hne : (c == '=') = false := by
      rw [beq_eq_false_iff_ne]
      rintro rfl
      rw [hsign] at hbits
      cases hbits
    have hpush : (st.push bits).filled = (st.filled + 1) % 4 := State.filled_push hfilled
    have hnext : (st.push bits).padded = false := State.padded_push.trans hpadded
    obtain ⟨after, hpadded', hpads', hfilled', hafter⟩ :=
      ih hnext State.pads_push (by omega) hdata
    refine ⟨after, hpadded', hpads', ?_, ?_⟩
    · rw [hfilled', hpush, List.length_cons]
      omega
    · rw [List.cons_append, decodeFrom, hne, hbits, hpadded]
      exact hafter

/-- From a state with no padding, the decoder takes characters of the alphabet and then padding that
closes the last group. -/
theorem isSome_decodeFrom_iff (hpadded : st.padded = false) (hpads : st.pads = 0)
    (hfilled : st.filled < 4) (hsign : alphabet '=' = none) :
    (decodeFrom alphabet true st cs).isSome = true ↔
      ∃ data n, cs = data ++ List.replicate n '=' ∧ (∀ c ∈ data, (alphabet c).isSome = true) ∧
        Closes ((st.filled + data.length) % 4) n := by
  have hclose : ∀ {data : List Char} (n : Nat), (∀ c ∈ data, (alphabet c).isSome = true) →
      ((decodeFrom alphabet true st (data ++ List.replicate n '=')).isSome = true ↔
        Closes ((st.filled + data.length) % 4) n) := by
    intro data n hdata
    obtain ⟨after, -, hpads', hfilled', hafter⟩ :=
      exists_decodeFrom_append hpadded hpads hfilled hsign hdata (List.replicate n '=')
    rw [hafter, isSome_replicate_iff n (by omega), hpads', hfilled', Nat.zero_add]
  constructor
  · intro h
    obtain ⟨data, n, rfl, hdata, -⟩ := exists_data_of_isSome h
    exact ⟨data, n, rfl, hdata, (hclose n hdata).1 h⟩
  · rintro ⟨data, n, rfl, hdata, hcloses⟩
    exact (hclose n hdata).2 hcloses

end decoder

/-! ## Texts in base 64 -/

/-- Whole groups of characters, of which the last one may end in one or two padding signs. -/
def Padded (letter : Char → Prop) (cs : List Char) : Prop :=
  ∃ data pads, cs = data ++ List.replicate pads '=' ∧ (∀ c ∈ data, letter c) ∧ pads ≤ 2 ∧
    4 ∣ cs.length

/-- Whole groups of characters with padding after them. -/
def Overfilled (letter : Char → Prop) (cs : List Char) : Prop :=
  ∃ groups pads, cs = groups ++ List.replicate pads '=' ∧ (∀ c ∈ groups, letter c) ∧
    groups ≠ [] ∧ 4 ∣ groups.length ∧ 0 < pads

section texts

variable {alphabet : Char → Option Nat} {letter letter' : Char → Prop} {cs : List Char}

theorem Padded.mono (h : Padded letter cs) (hletter : ∀ c ∈ cs, letter c → letter' c) :
    Padded letter' cs := by
  obtain ⟨data, pads, rfl, hdata, hpads, hlength⟩ := h
  exact ⟨data, pads, rfl, fun c hc => hletter c (List.mem_append_left _ hc) (hdata c hc), hpads,
    hlength⟩

theorem Padded.letter_or_sign {c : Char} (h : Padded letter cs) (hc : c ∈ cs) :
    letter c ∨ c = '=' := by
  obtain ⟨data, pads, rfl, hdata, -, -⟩ := h
  rcases List.mem_append.1 hc with hc | hc
  · exact .inl (hdata c hc)
  · exact .inr (List.eq_of_mem_replicate hc)

/-- A text with characters of the alphabet does not begin with a padding sign. -/
theorem head_ne_sign {data rest : List Char} (hsign : ¬ letter '=') (hne : data ≠ [])
    (hdata : ∀ c ∈ data, letter c) : (data ++ rest).head? ≠ some '=' := by
  cases data with
  | nil => exact absurd rfl hne
  | cons c data =>
    rw [List.cons_append, List.head?_cons]
    rintro ⟨⟩
    exact hsign (hdata _ List.mem_cons_self)

/-- The strict reading takes characters of the alphabet and then padding that closes the last group,
unless a padding sign comes first. -/
theorem isSome_decodeStrict (hletter : ∀ c, (alphabet c).isSome = true ↔ letter c)
    (hsign : ¬ letter '=') :
    (decodeStrict alphabet cs).isSome = true ↔ cs.head? ≠ some '=' ∧
      ∃ data n, cs = data ++ List.replicate n '=' ∧ (∀ c ∈ data, letter c) ∧
        Closes (data.length % 4) n := by
  have hnone : alphabet '=' = none := by
    rw [← Option.not_isSome_iff_eq_none, hletter]
    exact hsign
  unfold decodeStrict
  split
  · next hhead =>
    exact iff_of_false (by simp) fun h => h.1 (eq_of_beq hhead)
  · next hhead =>
    rw [and_iff_right (by simpa using hhead), isSome_decodeFrom_iff rfl rfl (by decide) hnone]
    simp only [hletter, Nat.zero_add]

/-- The strict reading of a text succeeds iff it is padded or overfilled. -/
theorem isSome_decodeStrict_iff (hletter : ∀ c, (alphabet c).isSome = true ↔ letter c)
    (hsign : ¬ letter '=') :
    (decodeStrict alphabet cs).isSome = true ↔ Padded letter cs ∨ Overfilled letter cs := by
  rw [isSome_decodeStrict hletter hsign]
  constructor
  · rintro ⟨hhead, data, n, rfl, hdata, hclosed | ⟨hopen, rfl⟩ | ⟨hopen, rfl⟩⟩
    · rcases Nat.eq_zero_or_pos n with rfl | hn
      · exact .inl ⟨data, 0, rfl, hdata, by omega, by simpa using Nat.dvd_of_mod_eq_zero hclosed⟩
      · refine .inr ⟨data, n, rfl, hdata, ?_, Nat.dvd_of_mod_eq_zero hclosed, hn⟩
        rintro rfl
        obtain ⟨n, rfl⟩ := Nat.exists_eq_add_one.2 hn
        exact hhead rfl
    · exact .inl ⟨data, 2, rfl, hdata, by omega, by simp; omega⟩
    · exact .inl ⟨data, 1, rfl, hdata, by omega, by simp; omega⟩
  · rintro (⟨data, pads, rfl, hdata, hpads, hlength⟩ |
      ⟨groups, pads, rfl, hgroups, hne, hlength, hpads⟩)
    · rw [List.length_append, List.length_replicate] at hlength
      refine ⟨?_, data, pads, rfl, hdata, ?_⟩
      · by_cases hne : data = []
        · -- padding alone is too short for a group
          subst hne
          obtain rfl : pads = 0 := by
            simp only [List.length_nil] at hlength
            omega
          simp
        · exact head_ne_sign hsign hne hdata
      · simp only [Closes]
        omega
    · exact ⟨head_ne_sign hsign hne hgroups, groups, pads, rfl, hgroups,
        .inl (Nat.mod_eq_zero_of_dvd hlength)⟩

end texts

/-- A character of the alphabet for URLs. -/
def IsUrlSafe (c : Char) : Prop := IsLetter c ∨ IsDigit c ∨ c = '-' ∨ c = '_'

instance (c : Char) : Decidable (IsUrlSafe c) := inferInstanceAs (Decidable (_ ∨ _))

/-- A character that the decoder of keys takes. -/
def IsKeyChar (c : Char) : Prop := IsUrlSafe c ∨ c = '+' ∨ c = '/'

theorem isSome_urlSafe_iff {c : Char} : (urlSafe c).isSome = true ↔ IsKeyChar c := by
  have hupper : ('A' ≤ c && c ≤ 'Z') = true ↔ 'A' ≤ c ∧ c ≤ 'Z' := by simp
  have hlower : ('a' ≤ c && c ≤ 'z') = true ↔ 'a' ≤ c ∧ c ≤ 'z' := by simp
  simp only [urlSafe, standard, beq_iff_eq, hupper, hlower, isDigit_iff, IsKeyChar, IsUrlSafe,
    IsLetter]
  split_ifs <;> simp_all

end Text.Base64

open Text.Base64

/-! ## The rule -/

namespace Kubernetes

variable {key : String}

theorem isEncryptionKey_iff :
    isEncryptionKey key = true ↔
      Padded IsKeyChar key.toList ∨ Overfilled IsKeyChar key.toList := by
  have hsign : ¬ IsKeyChar '=' := by
    rw [← isSome_urlSafe_iff]
    decide
  exact isSome_decodeStrict_iff (fun c => isSome_urlSafe_iff) hsign

/-- The decoder takes all keys for URLs. -/
theorem isEncryptionKey_of_padded (h : Padded IsUrlSafe key.toList) : isEncryptionKey key = true :=
  isEncryptionKey_iff.2 (.inl (h.mono fun _ _ => .inl))

/-- The decoder takes keys for URLs only, if characters of the standard alphabet and needless
padding are ruled out. -/
theorem padded_of_isEncryptionKey (hplus : '+' ∉ key.toList) (hslash : '/' ∉ key.toList)
    (hpads : ¬ Overfilled IsKeyChar key.toList) (h : isEncryptionKey key = true) :
    Padded IsUrlSafe key.toList := by
  refine ((isEncryptionKey_iff.1 h).resolve_right hpads).mono fun c hc hletter => ?_
  rcases hletter with hletter | rfl | rfl
  · exact hletter
  · exact absurd hc hplus
  · exact absurd hc hslash

/-- Settings with encryption of stored data and nothing else. -/
def encrypting (etcdEncryptionKey : String) : Kubernetes :=
  { unset with enableDataEncryptionAtRest := some true, etcdEncryptionKey }

end Kubernetes

namespace Orchestration

/-- All rules for an orchestrator hold as far as the one for the key of stored data. -/
structure ReachesKey (s : Settings) (o : Orchestration) (k : Kubernetes) (version : String) :
    Prop where
  runs : o.runs .kubernetes = true
  settings : o.kubernetes = some k
  resolved : o.resolvedVersion .create false = .ok version
  inOrder : k.check s version = .ok ()
  aggregatedAPIs : k.checkAggregatedAPIs s version = .ok ()
  encrypts : k.enableDataEncryptionAtRest = some true
  minimum : AtLeast version s.dataEncryptionMinimum
  key : k.etcdEncryptionKey ≠ ""

namespace ReachesKey

variable {s : Settings} {o : Orchestration} {k : Kubernetes} {version : String}
  (h : ReachesKey s o k version)
include h

/-- The rule is about the key alone. -/
theorem checkDataEncryption_eq :
    k.checkDataEncryption s version o.version =
      refuse (!Kubernetes.isEncryptionKey k.etcdEncryptionKey) (.malformed .etcdKey) := by
  have hkey : k.etcdEncryptionKey.isEmpty = false := by simpa using h.key
  rw [Kubernetes.checkDataEncryption, h.encrypts, checkMinimum_eq_ok.2 h.minimum, hkey]
  rfl

/-- What is left of the rules once the key has been reached. -/
theorem check_eq :
    o.check s .create = (do
      k.checkDataEncryption s version o.version
      k.checkExternalKms s version o.version
      k.checkPodSecurity s version
      o.checkSections) := by
  have hown : o.checkOwn s .create .kubernetes = k.checkFeatures s version o.version := by
    rw [checkOwn, checkKubernetes, h.resolved, h.settings]
    change (do k.check s version; k.checkFeatures s version o.version) = _
    rw [h.inOrder]
    rfl
  have hfeatures : k.checkFeatures s version o.version = (do
      k.checkDataEncryption s version o.version
      k.checkExternalKms s version o.version
      k.checkPodSecurity s version) := by
    rw [Kubernetes.checkFeatures, h.aggregatedAPIs]
    rfl
  rw [check, runs_eq_true.1 h.runs, Orchestrator.ofName?_name]
  simp only [hown, hfeatures, bind_assoc]

end ReachesKey

/-- **Keys for stored data.** Of a new cluster for which the rules hold as far as the one for the
key, that rule holds iff the key is in base 64 with the characters of both alphabets, or is made of
whole groups of them with any padding after these. All padded keys in the alphabet for URLs are
among them, and no others if plus signs, slashes and needless padding are ruled out. If the rule
holds, validation goes on with the rules after it. Otherwise the plan is rejected because of the
key. -/
theorem encryptionKey_decided {s : Settings} {o : Orchestration} {k : Kubernetes} {version : String}
    (h : ReachesKey s o k version) :
    (k.checkDataEncryption s version o.version = .ok () ↔
      Padded IsKeyChar k.etcdEncryptionKey.toList ∨
        Overfilled IsKeyChar k.etcdEncryptionKey.toList) ∧
    (Padded IsUrlSafe k.etcdEncryptionKey.toList →
      k.checkDataEncryption s version o.version = .ok ()) ∧
    ('+' ∉ k.etcdEncryptionKey.toList → '/' ∉ k.etcdEncryptionKey.toList →
      ¬ Overfilled IsKeyChar k.etcdEncryptionKey.toList →
      (k.checkDataEncryption s version o.version = .ok () ↔
        Padded IsUrlSafe k.etcdEncryptionKey.toList)) ∧
    (k.checkDataEncryption s version o.version = .ok () →
      o.check s .create = (do
        k.checkExternalKms s version o.version
        k.checkPodSecurity s version
        o.checkSections)) ∧
    (k.checkDataEncryption s version o.version ≠ .ok () →
      o.check s .create = .error (.malformed .etcdKey)) := by
  have hrule : k.checkDataEncryption s version o.version = .ok () ↔
      Kubernetes.isEncryptionKey k.etcdEncryptionKey = true := by
    rw [h.checkDataEncryption_eq, refuse_eq_ok, Bool.not_eq_false']
  refine ⟨hrule.trans Kubernetes.isEncryptionKey_iff,
    fun hpadded => hrule.2 (Kubernetes.isEncryptionKey_of_padded hpadded), ?_, ?_, ?_⟩
  · intro hplus hslash hpads
    refine hrule.trans ⟨?_, Kubernetes.isEncryptionKey_of_padded⟩
    exact Kubernetes.padded_of_isEncryptionKey hplus hslash hpads
  · intro hok
    rw [h.check_eq, hok]
    rfl
  · intro hbad
    have hkey : Kubernetes.isEncryptionKey k.etcdEncryptionKey = false := by
      rwa [← Bool.not_eq_true, ← hrule]
    rw [h.check_eq, h.checkDataEncryption_eq, hkey]
    rfl

/-- A Kubernetes cluster that stores its data encrypted. -/
def encrypting (key : String) : Orchestration where
  type := "Kubernetes"
  release := ""
  version := "1.10.4"
  kubernetes := some (.encrypting key)
  dcos := none
  openShift := none

theorem encrypting_reachesKey {key : String} (h : key ≠ "") :
    ReachesKey .standard (encrypting key) (.encrypting key) "1.10.4" := by
  have hresolved : resolveVersion "Kubernetes" "" "1.10.4" false = some "1.10.4" := by decide
  exact {
    runs := by rfl
    settings := rfl
    resolved := resolvedVersion_eq_ok.2 (.inl hresolved)
    inOrder := by rfl
    aggregatedAPIs := by rfl
    encrypts := rfl
    minimum := meetsMinimum_eq_true.1 rfl
    key := h }

theorem encrypting_urlSafe :
    ReachesKey .standard (encrypting "c2VjcmV0LTE_") (.encrypting "c2VjcmV0LTE_") "1.10.4" ∧
      Padded IsUrlSafe "c2VjcmV0LTE_".toList ∧
      (encrypting "c2VjcmV0LTE_").check .standard .create = .ok () := by
  have hreaches : ReachesKey .standard (encrypting "c2VjcmV0LTE_") (.encrypting "c2VjcmV0LTE_")
      "1.10.4" := encrypting_reachesKey (by decide)
  have hletters : "c2VjcmV0LTE_".toList.all (fun c => decide (IsUrlSafe c)) = true := by decide
  have hpadded : Padded IsUrlSafe "c2VjcmV0LTE_".toList :=
    ⟨_, 0, (List.append_nil _).symm,
      fun c hc => of_decide_eq_true (List.all_eq_true.1 hletters c hc), by decide, by decide⟩
  obtain ⟨-, hrule, -, hcheck, -⟩ := encryptionKey_decided hreaches
  exact ⟨hreaches, hpadded, (hcheck (hrule hpadded)).trans rfl⟩

/-- A key with needless padding and one in the standard alphabet pass as well. -/
theorem encrypting_loose :
    (∀ key ∈ ["AAAA=", "+/+/"],
      ReachesKey .standard (encrypting key) (.encrypting key) "1.10.4" ∧
        (encrypting key).check .standard .create = .ok ()) ∧
      ¬ Padded IsUrlSafe "AAAA=".toList ∧ ¬ Padded IsUrlSafe "+/+/".toList := by
  refine ⟨?_, ?_, ?_⟩
  · intro key hkey
    have hne : key ≠ "" := by
      rintro rfl
      exact absurd hkey (by decide)
    refine ⟨encrypting_reachesKey hne, ?_⟩
    rw [(encrypting_reachesKey hne).check_eq, (encrypting_reachesKey hne).checkDataEncryption_eq]
    rcases List.mem_pair.1 hkey with rfl | rfl
    · rfl
    · rfl
  · rintro ⟨-, -, -, -, -, hlength⟩
    exact absurd hlength (by decide)
  · intro hpadded
    exact absurd (hpadded.letter_or_sign (c := '+') (by decide)) (by decide)

end Orchestration

end ClusterPlan
