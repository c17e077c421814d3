import ClusterPlan.Proofs.Acceptance
import ClusterPlan.Proofs.Access
import ClusterPlan.Proofs.SubnetPath

/-!
# References to secrets

A secret is referred to by the path of its key vault and by its name. The path has three parts
between fixed words. Subscription and group may hold slashes, even the fixed words themselves, so a
text may be the path of several parts. The recogniser looks for one choice of them: the vault is
what follows the last slash, the provider's words stand before it, and any occurrence of the word
for groups with something on both sides of it will do for the rest. That this finds parts whenever
there are any is `isKeyVaultPath_iff`.

A reference may stand in the service principal and in an extension. The two rules refuse for the
same reasons and differ in the diagnostics only, so they judge every reference alike
(`reference_judged_alike`).
-/

namespace ClusterPlan

open ClusterPlan.Text

namespace Identifier

/-! ## Paths of key vaults -/

/-- The parts of the path of a key vault, and the character between the two words of the provider's
name. -/
structure VaultPath where
  subscription : String
  group : String
  free : Char
  vault : String

namespace VaultPath

/-- The path of the parts. -/
def text (p : VaultPath) : String :=
  "/subscriptions/" ++ p.subscription ++ "/resourceGroups/" ++ p.group ++ "/providers/Microsoft" ++
    String.singleton p.free ++ "KeyVault/vaults/" ++ p.vault

/-- What the parts may be. Subscription and group may hold slashes. -/
structure IsValid (p : VaultPath) : Prop where
  subscription : p.subscription ≠ ""
  group : p.group ≠ ""
  solidSubscription : ∀ c ∈ p.subscription.toList, isBlank c = false
  solidGroup : ∀ c ∈ p.group.toList, isBlank c = false
  free : p.free ≠ '\n'
  vault : p.vault ≠ ""
  solidVault : ∀ c ∈ p.vault.toList, c ≠ '/' ∧ isBlank c = false

theorem toList_text (p : VaultPath) :
    p.text.toList =
      "/subscriptions/".toList ++ ((p.subscription.toList ++ ("/resourceGroups/".toList ++
        p.group.toList)) ++ ("/providers/Microsoft".toList ++ (p.free ::
          ("KeyVault/vaults/".toList ++ p.vault.toList)))) := by
  unfold text
  simp only [String.toList_append, String.toList_singleton, List.append_assoc, List.cons_append,
    List.nil_append]

end VaultPath

section recogniser

variable {cs word front part body : List Char}

/-! ### The parts of the recogniser -/

/-- A text is cut after its last slash. -/
theorem cutLast_append (hpart : '/' ∉ part) (front : List Char) :
    ((front ++ '/' :: part).reverse.takeWhile (· != '/')).reverse = part ∧
      ((front ++ '/' :: part).reverse.dropWhile (· != '/')).reverse = front ++ ['/'] := by
  have hrun : ∀ c ∈ part.reverse, (c != '/') = true := by
    intro c hc
    rw [bne_iff_ne]
    rintro rfl
    exact hpart (List.mem_reverse.1 hc)
  have hstop : StopsAt (· != '/') ('/' :: front.reverse) := by
    intro c hc
    cases hc
    rfl
  obtain ⟨htake, hdrop⟩ := takeWhile_run hrun hstop
  have hreverse : (front ++ '/' :: part).reverse = part.reverse ++ '/' :: front.reverse := by simp
  rw [hreverse, htake, hdrop]
  simp

/-- A text is what it is cut into, and no slash comes after the cut. -/
theorem cutLast_spec (cs : List Char) :
    cs = (cs.reverse.dropWhile (· != '/')).reverse ++ (cs.reverse.takeWhile (· != '/')).reverse ∧
      '/' ∉ (cs.reverse.takeWhile (· != '/')).reverse := by
  constructor
  · rw [← List.reverse_append, List.takeWhile_append_dropWhile, List.reverse_reverse]
  · intro h
    have hne := List.all_eq_true.1 List.all_takeWhile _ (List.mem_reverse.1 h)
    exact absurd rfl (bne_iff_ne.1 hne)

/-- An inner occurrence of a word is one with something after it. -/
theorem hasInner_iff :
    hasInner word cs = true ↔ ∃ before after, cs = before ++ (word ++ after) ∧ after ≠ [] := by
  induction cs with
  | nil => simp [hasInner]
  | cons c cs ih =>
    have hhead : (word.isPrefixOf (c :: cs) && word.length < (c :: cs).length) = true ↔
        ∃ after, c :: cs = word ++ after ∧ after ≠ [] := by
      rw [Bool.and_eq_true, List.isPrefixOf_iff_prefix, decide_eq_true_iff]
      constructor
      · rintro ⟨⟨after, hafter⟩, hlength⟩
        refine ⟨after, hafter.symm, ?_⟩
        rintro rfl
        rw [← hafter, List.append_nil] at hlength
        exact absurd hlength (Nat.lt_irrefl _)
      · rintro ⟨after, hafter, hne⟩
        have hpos := List.length_pos_iff.2 hne
        rw [hafter, List.length_append]
        exact ⟨List.prefix_append word after, Nat.lt_add_of_pos_right hpos⟩
    rw [hasInner, Bool.or_eq_true, hhead, ih]
    constructor
    · rintro (⟨after, hcs, hne⟩ | ⟨before, after, rfl, hne⟩)
      · exact ⟨[], after, hcs, hne⟩
      · exact ⟨c :: before, after, rfl, hne⟩
    · rintro ⟨before, after, hcs, hne⟩
      cases before with
      | nil => exact .inl ⟨after, hcs, hne⟩
      | cons b before =>
        rw [List.cons_append] at hcs
        exact .inr ⟨before, after, (List.cons.inj hcs).2, hne⟩

/-- What stands before the provider's words. -/
theorem dropProviderEnd?_eq_some {before after : String} :
    dropProviderEnd? before after cs = some body ↔
      ∃ free, free ≠ '\n' ∧ cs = body ++ (before.toList ++ (free :: after.toList)) := by
  constructor
  · intro h
    unfold dropProviderEnd? at h
    split at h
    · next free rest hafter =>
      split at h
      · cases h
      · next hfree =>
        obtain ⟨back, hback, rfl⟩ := Option.map_eq_some_iff.1 h
        refine ⟨free, hfree, ?_⟩
        have hcs := eq_append_of_dropPrefix? hafter
        rw [eq_append_of_dropPrefix? hback] at hcs
        rw [← List.reverse_reverse cs, hcs]
        simp
    · cases h
  · rintro ⟨free, hfree, rfl⟩
    have hreverse : (body ++ (before.toList ++ free :: after.toList)).reverse =
        after.toList.reverse ++ (free :: (before.toList.reverse ++ body.reverse)) := by simp
    rw [dropProviderEnd?, hreverse, dropPrefix?_append]
    simp only [if_neg hfree, dropPrefix?_append]
    simp

theorem isSolid_iff : isSolid cs = true ↔ ∀ c ∈ cs, isBlank c = false := by
  simp [isSolid]

/-- What stands before the provider's words is a subscription and a group, in one way or another. -/
theorem exists_parts_iff :
    (isSolid body && hasInner "/resourceGroups/".toList (body.drop 1)) = true ↔
      ∃ subscription group, body = subscription ++ ("/resourceGroups/".toList ++ group) ∧
        subscription ≠ [] ∧ group ≠ [] ∧ (∀ c ∈ subscription, isBlank c = false) ∧
        ∀ c ∈ group, isBlank c = false := by
  rw [Bool.and_eq_true, isSolid_iff, hasInner_iff]
  constructor
  · rintro ⟨hsolid, before, group, hdrop, hgroup⟩
    cases body with
    | nil =>
      have hlength := congrArg List.length hdrop
      have hpos := List.length_pos_iff.2 hgroup
      simp at hlength
    | cons c body =>
      rw [List.drop_one, List.tail_cons] at hdrop
      subst hdrop
      refine ⟨c :: before, group, rfl, List.cons_ne_nil c before, hgroup, ?_, ?_⟩
      · exact fun d hd => hsolid d (by rw [← List.cons_append]; exact List.mem_append_left _ hd)
      · intro d hd
        exact hsolid d (List.mem_cons_of_mem c
          (List.mem_append_right before (List.mem_append_right _ hd)))
  · rintro ⟨subscription, group, rfl, hsubscription, hgroup, hsolid, hsolid'⟩
    have hword : ∀ c ∈ "/resourceGroups/".toList, isBlank c = false :=
      isSolid_iff.1 (by decide)
    constructor
    · intro c hc
      rcases List.mem_append.1 hc with hc | hc
      · exact hsolid c hc
      · exact (List.mem_append.1 hc).elim (hword c) (hsolid' c)
    · cases subscription with
      | nil => exact absurd rfl hsubscription
      | cons c before => exact ⟨before, group, rfl, hgroup⟩

end recogniser

/-- The provider's words end in the slash before the vault. -/
theorem provider_words : "KeyVault/vaults/".toList = "KeyVault/vaults".toList ++ ['/'] := by rfl

/-- The path of valid parts is recognised. -/
theorem VaultPath.IsValid.isKeyVaultPath {p : VaultPath} (hp : p.IsValid) :
    isKeyVaultPath p.text = true := by
  have hslash : '/' ∉ p.vault.toList := fun h => (hp.solidVault _ h).1 rfl
  obtain ⟨parts, hparts⟩ : ∃ parts,
      parts = p.subscription.toList ++ ("/resourceGroups/".toList ++ p.group.toList) := ⟨_, rfl⟩
  have hbody : (isSolid parts && hasInner "/resourceGroups/".toList (parts.drop 1)) = true :=
    exists_parts_iff.2 ⟨_, _, hparts, by simpa using hp.subscription, by simpa using hp.group,
      hp.solidSubscription, hp.solidGroup⟩
  obtain ⟨front, hfront⟩ : ∃ front,
      front = parts ++ ("/providers/Microsoft".toList ++ (p.free :: "KeyVault/vaults".toList)) :=
    ⟨_, rfl⟩
  have hrest : parts ++ ("/providers/Microsoft".toList ++ (p.free ::
      ("KeyVault/vaults/".toList ++ p.vault.toList))) = front ++ '/' :: p.vault.toList := by
    rw [hfront, provider_words]
    simp
  have hup : front ++ ['/'] =
      parts ++ ("/providers/Microsoft".toList ++ (p.free :: "KeyVault/vaults/".toList)) := by
    rw [hfront, provider_words]
    simp
  obtain ⟨hvault, hcut⟩ := cutLast_append hslash front
  rw [Identifier.isKeyVaultPath, VaultPath.toList_text, dropPrefix?_append, ← hparts, hrest]
  simp only [hvault, hcut]
  rw [hup, dropProviderEnd?_eq_some.2 ⟨p.free, hp.free, rfl⟩]
  simp only [hbody, Bool.and_true, Bool.and_eq_true, Bool.not_eq_true',
    List.isEmpty_eq_false_iff, isSolid_iff]
  exact ⟨by simpa using hp.vault, fun c hc => (hp.solidVault c hc).2⟩

/-- A recognised text is the path of some valid parts. -/
theorem exists_path_of_isKeyVaultPath {s : String} (h : isKeyVaultPath s = true) :
    ∃ p : VaultPath, p.IsValid ∧ s = p.text := by
  unfold isKeyVaultPath at h
  split at h
  · cases h
  · next rest hrest =>
    obtain ⟨hcut, hslash⟩ := cutLast_spec rest
    simp only [Bool.and_eq_true, Bool.not_eq_true', List.isEmpty_eq_false_iff, isSolid_iff] at h
    obtain ⟨⟨hvault, hsolid⟩, h⟩ := h
    split at h
    · cases h
    · next body hbody =>
      obtain ⟨free, hfree, hup⟩ := dropProviderEnd?_eq_some.1 hbody
      obtain ⟨subscription, group, rfl, hsub, hgroup, hsolid₁, hsolid₂⟩ := exists_parts_iff.1 h
      refine ⟨⟨String.ofList subscription, String.ofList group, free,
        String.ofList (rest.reverse.takeWhile (· != '/')).reverse⟩,
        ⟨?_, ?_, ?_, ?_, hfree, ?_, ?_⟩, ?_⟩
      · simpa using hsub
      · simpa using hgroup
      · simpa using hsolid₁
      · simpa using hsolid₂
      · simpa using hvault
      · intro c hc
        rw [String.toList_ofList] at hc
        refine ⟨?_, hsolid c hc⟩
        rintro rfl
        exact hslash hc
      · apply String.toList_injective
        rw [VaultPath.toList_text, eq_append_of_dropPrefix? hrest]
        simp only [String.toList_ofList]
        rw [hup] at hcut
        simpa using hcut

/-- The recogniser accepts the paths of valid parts. -/
theorem isKeyVaultPath_iff {s : String} :
    isKeyVaultPath s = true ↔ ∃ p : VaultPath, p.IsValid ∧ s = p.text := by
  refine ⟨exists_path_of_isKeyVaultPath, ?_⟩
  rintro ⟨p, hp, rfl⟩
  exact hp.isKeyVaultPath

end Identifier

open Identifier

/-! ## Two rules for one reference -/

/-- Two rules are both kept, or both broken with faults of one kind. -/
inductive JudgeAlike : Verdict → Verdict → Prop
  | accepted : JudgeAlike (.ok ()) (.ok ())
  | rejected {fault fault' : Fault} (h : fault.kind = fault'.kind) :
    JudgeAlike (.error fault) (.error fault')

namespace JudgeAlike

variable {first first' second second' : Verdict}

theorem refuse {fault fault' : Fault} (broken : Bool) (h : fault.kind = fault'.kind) :
    JudgeAlike (ClusterPlan.refuse broken fault) (ClusterPlan.refuse broken fault') := by
  cases broken with
  | false => exact accepted
  | true => exact rejected h

theorem andThen (hfirst : JudgeAlike first first') (hsecond : JudgeAlike second second') :
    JudgeAlike (do first; second) (do first'; second') := by
  cases hfirst with
  | accepted => exact hsecond
  | rejected h => exact rejected h

theorem eq_ok_iff (h : JudgeAlike first second) : first = .ok () ↔ second = .ok () := by
  cases h with
  | accepted => rfl
  | rejected h => simp

end JudgeAlike

/-- A reference is judged by itself, up to the diagnostics. -/
theorem SecretReference.judgeAlike_check {patterns : Patterns} {r : SecretReference}
    {noVault noVault' noSecret noSecret' malformed malformed' : Fault}
    (hvault : noVault.kind = noVault'.kind) (hsecret : noSecret.kind = noSecret'.kind)
    (hmalformed : malformed.kind = malformed'.kind) :
    JudgeAlike (r.check patterns noVault noSecret malformed)
      (r.check patterns noVault' noSecret' malformed') :=
  .andThen (.refuse _ hvault) (.andThen (.refuse _ hsecret) (.refuse _ hmalformed))

/-- A reference names a secret and, by the path of valid parts, a key vault. -/
def SecretReference.IsComplete (r : SecretReference) : Prop :=
  r.secretName ≠ "" ∧ ∃ path : VaultPath, path.IsValid ∧ r.vaultID = path.text

/-- A reference holds where key vaults are named by the standard paths. -/
theorem SecretReference.usable_standard {r : SecretReference} :
    r.Usable .standard ↔ r.IsComplete := by
  rw [IsComplete, ← isKeyVaultPath_iff]
  constructor
  · intro h
    exact ⟨h.secret, h.path⟩
  · rintro ⟨hsecret, hpath⟩
    refine ⟨?_, hsecret, hpath⟩
    rintro hempty
    rw [hempty] at hpath
    exact absurd hpath (by decide)

section reference

variable {s : Settings} {orchestrator : String} {k : Option Kubernetes}
  {principal : ServicePrincipal} {plan : Plan} {extension : Extension} {r : SecretReference}

/-- All that is left to check of a service principal with a reference is the reference. -/
theorem ServicePrincipal.checkNeeded_of_reference {patterns : Patterns}
    (hclient : principal.clientId ≠ "") (hsecret : principal.secret = "")
    (hkms : ∀ settings ∈ k, settings.enableEncryptionWithExternalKms ≠ some true)
    (hr : principal.secretReference = some r) :
    checkNeeded orchestrator k (some principal) patterns =
      r.check patterns (.missing (.principalVault orchestrator))
        (.missing (.principalSecret orchestrator)) (.malformed .principalReference) := by
  have hclient' : principal.clientId.isEmpty = false := by simpa using hclient
  have hkms' : k.any (·.enableEncryptionWithExternalKms == some true) = false := by
    simpa [Option.any_eq_false] using hkms
  have hcredential : (principal.secret.isEmpty != principal.secretReference.isSome) = false := by
    rw [hsecret, hr]
    rfl
  rw [checkNeeded, ServicePrincipal.check, hclient', hcredential, hkms', hr]
  rfl

/-- All that is left to check of a single extension with a reference is the reference. -/
theorem Plan.checkExtensions_of_single (hextensions : plan.extensions = [extension])
    (hr : extension.parametersReference = some r) :
    plan.checkExtensions s =
      r.check s.patterns (.missing (.extensionVault extension.name))
        (.missing (.extensionSecret extension.name))
        (.malformed (.extensionReference extension.name)) := by
  rw [checkExtensions, hextensions, checkEach, checkEach, Extension.check, hr, checkSome]
  cases r.check s.patterns (.missing (.extensionVault extension.name))
      (.missing (.extensionSecret extension.name))
      (.malformed (.extensionReference extension.name)) with
  | error fault => rfl
  | ok => rfl

/-- **References to secrets.** The rule for a service principal that is identified by a reference
alone and the rule for extensions with this one reference accept both, or reject both with the same
kind of fault, whatever the patterns. With the standard patterns they accept a reference iff it is
complete. -/
theorem reference_judged_alike (hclient : principal.clientId ≠ "") (hsecret : principal.secret = "")
    (hkms : ∀ settings ∈ k, settings.enableEncryptionWithExternalKms ≠ some true)
    (hprincipal : principal.secretReference = some r) (hextensions : plan.extensions = [extension])
    (hextension : extension.parametersReference = some r) :
    JudgeAlike (ServicePrincipal.checkNeeded orchestrator k (some principal) s.patterns)
      (plan.checkExtensions s) ∧
    (s.patterns = .standard →
      (ServicePrincipal.checkNeeded orchestrator k (some principal) s.patterns = .ok () ↔
        r.IsComplete) ∧
      (plan.checkExtensions s = .ok () ↔ r.IsComplete)) := by
  have halike : JudgeAlike
      (ServicePrincipal.checkNeeded orchestrator k (some principal) s.patterns)
      (plan.checkExtensions s) := by
    rw [ServicePrincipal.checkNeeded_of_reference hclient hsecret hkms hprincipal,
      Plan.checkExtensions_of_single hextensions hextension]
    exact SecretReference.judgeAlike_check rfl rfl rfl
  refine ⟨halike, fun hpatterns => ?_⟩
  rw [halike.eq_ok_iff, and_self, Plan.checkExtensions_of_single hextensions hextension,
    SecretReference.check_eq_ok, hpatterns, SecretReference.usable_standard]

end reference

/-- A reference with slashes in the group and in place of the point of the provider's name. -/
def nestedReference : SecretReference where
  vaultID := "/subscriptions/a/resourceGroups/b/resourceGroups/c/providers/Microsoft/" ++
    "KeyVault/vaults/d"
  secretName := "key"
  version := ""

/-- The fleet with an extension that refers to a secret. -/
def Plan.extendedFleet : Plan :=
  { fleet with extensions := [⟨"prometheus", "v1", "", some nestedReference, ""⟩] }

theorem nestedReference_judged_alike :
    let principal : ServicePrincipal := ⟨"client", "", "", some nestedReference⟩
    principal.clientId ≠ "" ∧ principal.secret = "" ∧
      JudgeAlike (ServicePrincipal.checkNeeded "Kubernetes" none (some principal))
        (Plan.extendedFleet.checkExtensions .standard) ∧
      Plan.extendedFleet.checkExtensions .standard = .ok () := by
  intro principal
  have hclient : principal.clientId ≠ "" := by decide
  have hvalid : VaultPath.IsValid ⟨"a", "b/resourceGroups/c", '/', "d"⟩ := {
    subscription := by decide
    group := by decide
    solidSubscription := isSolid_iff.1 (by decide)
    solidGroup := isSolid_iff.1 (by decide)
    free := by decide
    vault := by decide
    solidVault := List.forall_mem_singleton.2 (by decide) }
  have hpath : nestedReference.vaultID = VaultPath.text ⟨"a", "b/resourceGroups/c", '/', "d"⟩ := by
    decide
  have hextensions : Plan.extendedFleet.extensions =
      [⟨"prometheus", "v1", "", some nestedReference, ""⟩] := rfl
  have hreference : principal.secretReference = some nestedReference := rfl
  have hkms : ∀ settings ∈ (none : Option Kubernetes),
      settings.enableEncryptionWithExternalKms ≠ some true := by simp
  obtain ⟨halike, haccepted⟩ : JudgeAlike
        (ServicePrincipal.checkNeeded "Kubernetes" none (some principal) Settings.standard.patterns)
        (Plan.extendedFleet.checkExtensions .standard) ∧ _ :=
    reference_judged_alike hclient rfl hkms hreference hextensions rfl
  exact ⟨hclient, rfl, halike, (haccepted rfl).2.2 ⟨by decide, _, hvalid, hpath⟩⟩

end ClusterPlan
