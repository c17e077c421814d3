import ClusterPlan.Proofs.Access
import ClusterPlan.Proofs.NameGrammar
import ClusterPlan.Proofs.NumeralGrammar

/-!
# Identifiers and numerals

A universally unique identifier has thirty-two hexadecimal digits, once marks, braces and hyphens
are set aside (`IsUuidText`). The rules ask for thirty-two characters that are a numeral in radix
16, and numerals are more than digits: they may have a plus sign, the mark of the radix, underscores
and blanks, and their digits may be those of other scripts. So some texts pass that are no
identifiers (`isUuid_marked`).

`uuids_decided` says exactly which texts pass, and that only the characters just named can make a
difference (`IsLoose`): every identifier passes, and a text without them passes iff it is one.
-/

namespace ClusterPlan

open ClusterPlan.Text ClusterPlan.Numeral

/-! ## Plain characters -/

section plain

variable {c : Char}

theorem Text.decimalDigit?_of_isDigit (h : c.isDigit = true) :
    decimalDigit? c = some (c.toNat - 0x30) := by
  have hhigh : c.toNat ≤ 57 := UInt32.le_iff_toNat_le.1 (Identifier.isDigit_iff.1 h).2
  rw [decimalDigit?, if_pos (by omega), if_pos h]

/-- Characters that are neither blanks nor digits of another script count as themselves. -/
theorem Numeral.plain_eq_self (hblank : isWideBlank c = false)
    (hdigit : isDecimalDigit c = true → c.isDigit = true) : plain c = c := by
  rw [plain, hblank, if_neg Bool.false_ne_true]
  cases hd : decimalDigit? c with
  | none => rfl
  | some d =>
    have hascii := hdigit (by rw [isDecimalDigit, hd]; rfl)
    have hlow : 48 ≤ c.toNat := UInt32.le_iff_toNat_le.1 (Identifier.isDigit_iff.1 hascii).1
    rw [decimalDigit?_of_isDigit hascii] at hd
    cases hd
    show Char.ofNat (0x30 + (c.toNat - 0x30)) = c
    rw [Nat.add_sub_of_le hlow, Char.ofNat_toNat]

end plain

namespace Identifier

/-! ## Hexadecimal digits -/

/-- An ASCII hexadecimal digit. -/
def IsHexDigit (c : Char) : Prop := IsDigit c ∨ ('a' ≤ c ∧ c ≤ 'f') ∨ ('A' ≤ c ∧ c ≤ 'F')

instance (c : Char) : Decidable (IsHexDigit c) := inferInstanceAs (Decidable (_ ∨ _))

/-- A character of numerals other than the hexadecimal digits: a plus sign, an underscore, the
letter of the mark, a blank, or a digit of another script. -/
def IsLoose (c : Char) : Prop :=
  c = '+' ∨ c = '_' ∨ c = 'x' ∨ c = 'X' ∨ isWhiteSpace c = true ∨
    (isDecimalDigit c = true ∧ c.isDigit = false)

variable {c : Char} {s : String}

theorem isDigitOf_iff : IsDigitOf 16 c ↔ IsHexDigit c := by
  have hrange : ∀ {low high : Char}, (decide (low ≤ c) && decide (c ≤ high)) = true ↔
      low ≤ c ∧ c ≤ high := by simp
  have htoNat : ∀ {low high : Char}, low ≤ high ↔ low.toNat ≤ high.toNat := UInt32.le_iff_toNat_le
  unfold IsDigitOf hexDigit?
  rw [IsHexDigit, ← isDigit_iff]
  split
  · next h =>
    have hhigh : c.toNat ≤ 57 := htoNat.1 (isDigit_iff.1 h).2
    exact iff_of_true ⟨_, rfl, by omega⟩ (.inl h)
  split
  · next h =>
    have hhigh : c.toNat ≤ 102 := htoNat.1 (hrange.1 h).2
    exact iff_of_true ⟨_, rfl, by omega⟩ (.inr (.inl (hrange.1 h)))
  split
  · next h =>
    have hhigh : c.toNat ≤ 70 := htoNat.1 (hrange.1 h).2
    exact iff_of_true ⟨_, rfl, by omega⟩ (.inr (.inr (hrange.1 h)))
  · next hdigit hlower hupper =>
    refine iff_of_false (by simp) ?_
    rintro (h | h | h)
    · exact hdigit h
    · exact hlower (hrange.2 h)
    · exact hupper (hrange.2 h)

theorem plain_of_not_isLoose (h : ¬ IsLoose c) : plain c = c := by
  simp only [IsLoose, isWhiteSpace, not_or, not_and, Bool.or_eq_true, Bool.not_eq_false] at h
  exact plain_eq_self (Bool.eq_false_of_not_eq_true h.2.2.2.2.1.2) h.2.2.2.2.2

theorem map_plain_of_not_isLoose {cs : List Char} (h : ∀ c ∈ cs, ¬ IsLoose c) :
    cs.map plain = cs := by
  conv_rhs => rw [← List.map_id cs]
  exact List.map_congr_left fun c hc => plain_of_not_isLoose (h c hc)

/-- Hexadecimal digits are not loose. -/
theorem IsHexDigit.not_isLoose (h : IsHexDigit c) : ¬ IsLoose c := by
  have hascii : c.toNat < 0x80 := by
    have hhigh : c ≤ 'f' := by
      rcases h with h | h | h
      · exact Char.le_trans h.2 (by decide)
      · exact h.2
      · exact Char.le_trans h.2 (by decide)
    exact Nat.lt_of_le_of_lt (UInt32.le_iff_toNat_le.1 hhigh) (by decide)
  have hlow : 48 ≤ c.toNat := (isDigitOf_iff.2 h).le_toNat
  rintro (rfl | rfl | rfl | rfl | hblank | ⟨hdigit, hother⟩)
  · exact absurd h (by decide)
  · exact absurd h (by decide)
  · exact absurd h (by decide)
  · exact absurd h (by decide)
  · simp only [isWhiteSpace, isAsciiBlank, isWideBlank, Bool.or_eq_true, Bool.and_eq_true,
      decide_eq_true_eq, beq_iff_eq] at hblank
    omega
  · rw [isDecimalDigit, decimalDigit?, if_pos hascii, hother] at hdigit
    cases hdigit

/-! ## Identifiers -/

/-- Thirty-two hexadecimal digits, with marks, braces and hyphens set aside. -/
structure IsUuidText (s : String) : Prop where
  length : (uuidCore s).length = 32
  digits : ∀ c ∈ uuidCore s, IsHexDigit c

theorem hyphen_not_mem_uuidCore : '-' ∉ uuidCore s := by
  simp [uuidCore]

theorem isUuid_iff :
    isUuid s = true ↔ (uuidCore s).length = 32 ∧
      ∃ n : Spelling, n.IsValid 16 ∧ (uuidCore s).map plain = n.text := by
  rw [isUuid, Bool.and_eq_true, beq_iff_eq, isSome_read_iff]

theorem IsUuidText.isUuid (h : IsUuidText s) : isUuid s = true := by
  have hne : uuidCore s ≠ [] := by
    intro hempty
    have hlength := h.length
    rw [hempty] at hlength
    cases hlength
  have hplain : (uuidCore s).map plain = uuidCore s :=
    map_plain_of_not_isLoose fun c hc => (h.digits c hc).not_isLoose
  have hdigits : Digits 16 (uuidCore s) :=
    .of_forall hne fun c hc => isDigitOf_iff.2 (h.digits c hc)
  refine isUuid_iff.2 ⟨h.length, ⟨[], [], [], uuidCore s, []⟩,
    ⟨nofun, .inl rfl, .inl rfl, hdigits, nofun, nofun⟩, ?_⟩
  rw [hplain, Spelling.text, Spelling.core, List.append_nil]
  rfl

/-- A text whose characters are both in a class and not in it is empty. -/
theorem eq_nil_of_forall {p : Char → Prop} {cs : List Char} (h : ∀ c ∈ cs, p c)
    (hnot : ∀ c ∈ cs, ¬ p c) : cs = [] :=
  List.eq_nil_iff_forall_not_mem.2 fun c hc => hnot c hc (h c hc)

/-- Without loose characters and hyphens a numeral has no parts besides its digits. -/
theorem text_eq_digits {n : Spelling} (h : n.IsValid 16)
    (htight : ∀ c ∈ n.text, ¬ IsLoose c ∧ c ≠ '-') : n.text = n.digits := by
  have hblank : ∀ c ∈ n.text, ¬ isAsciiBlank c = true := by
    intro c hc hblank
    exact (htight c hc).1 (.inr (.inr (.inr (.inr (.inl (by rw [isWhiteSpace, hblank]; rfl))))))
  rw [Spelling.text, Spelling.core] at htight hblank
  have hbefore : n.before = [] := eq_nil_of_forall h.before fun c hc => hblank c (by simp [hc])
  have hafter : n.after = [] := eq_nil_of_forall h.after fun c hc => hblank c (by simp [hc])
  have hsign : n.sign = [] := by
    rcases h.sign with hsign | hsign | hsign
    · exact hsign
    · exact absurd (.inl rfl) (htight '+' (by simp [hsign])).1
    · exact absurd rfl (htight '-' (by simp [hsign])).2
  have hmark : n.mark = [] := by
    rcases h.mark with hmark | ⟨c, hc, hmark⟩
    · exact hmark
    · have hletter := htight c (by rcases hmark with hmark | hmark <;> simp [hmark])
      rcases letter_of_radixMark? hc with ⟨h, -⟩ | ⟨h, -⟩ | ⟨-, rfl | rfl⟩
      · cases h
      · cases h
      · exact absurd (.inr (.inr (.inl rfl))) hletter.1
      · exact absurd (.inr (.inr (.inr (.inl rfl)))) hletter.1
  rw [Spelling.text, Spelling.core, hbefore, hafter, hsign, hmark]
  simp

/-- Without loose characters only identifiers pass. -/
theorem isUuidText_of_isUuid (h : isUuid s = true) (hloose : ∀ c ∈ uuidCore s, ¬ IsLoose c) :
    IsUuidText s := by
  obtain ⟨hlength, n, hn, htext⟩ := isUuid_iff.1 h
  rw [map_plain_of_not_isLoose hloose] at htext
  have htight : ∀ c ∈ n.text, ¬ IsLoose c ∧ c ≠ '-' := by
    intro c hc
    rw [← htext] at hc
    refine ⟨hloose c hc, ?_⟩
    rintro rfl
    exact hyphen_not_mem_uuidCore hc
  rw [text_eq_digits hn htight] at htext
  refine ⟨hlength, fun c hc => ?_⟩
  have hne : c ≠ '_' := by
    rintro rfl
    exact hloose '_' hc (.inr (.inl rfl))
  rw [htext] at hc
  exact isDigitOf_iff.1 (hn.digits.isDigitOf_of_mem hc hne)

end Identifier

open Identifier

/-- The identifiers of a directory. -/
def Directory.ids (d : Directory) : List String :=
  [d.clientAppID, d.serverAppID, d.tenantID, d.adminGroupID]

/-- The applications of a directory have identifiers, and so do tenant and group if they are given,
where `passes` says what counts as an identifier. -/
structure Directory.Identified (passes : String → Prop) (d : Directory) : Prop where
  client : passes d.clientAppID
  server : passes d.serverAppID
  tenant : d.tenantID = "" ∨ passes d.tenantID
  group : d.adminGroupID = "" ∨ passes d.adminGroupID

namespace Directory

variable {d : Directory} {passes passes' : String → Prop}

theorem Identified.mono (h : d.Identified passes) (himp : ∀ id ∈ d.ids, passes id → passes' id) :
    d.Identified passes' where
  client := himp _ (by simp [ids]) h.client
  server := himp _ (by simp [ids]) h.server
  tenant := h.tenant.imp_right (himp _ (by simp [ids]))
  group := h.group.imp_right (himp _ (by simp [ids]))

/-- When a directory is in order. -/
theorem check_eq_ok : d.check = .ok () ↔ d.Identified (isUuid · = true) := by
  have hoptional : ∀ id : String, (!id.isEmpty && !isUuid id) = false ↔
      id = "" ∨ isUuid id = true := by
    intro id
    by_cases hid : id = ""
    · simp [hid]
    · simp [hid]
  simp only [check, then_eq_ok, refuse_eq_ok, hoptional, Bool.not_eq_false']
  constructor
  · rintro ⟨hclient, hserver, htenant, hgroup⟩
    exact ⟨hclient, hserver, htenant, hgroup⟩
  · intro h
    exact ⟨h.client, h.server, h.tenant, h.group⟩

end Directory

/-- **Identifiers.** A text passes iff it has thirty-two characters, marks, braces and hyphens set
aside, and these are the spelling of a numeral in radix 16. Identifiers pass, and without loose
characters nothing else does. A directory is in order iff its identifiers pass, and without loose
characters in them iff they are identifiers. -/
theorem uuids_decided (s : String) (d : Directory) :
    (isUuid s = true ↔ (uuidCore s).length = 32 ∧
      ∃ n : Spelling, n.IsValid 16 ∧ (uuidCore s).map plain = n.text) ∧
    (IsUuidText s → isUuid s = true) ∧
    ((∀ c ∈ uuidCore s, ¬ IsLoose c) → (isUuid s = true ↔ IsUuidText s)) ∧
    (d.check = .ok () ↔ d.Identified (isUuid · = true)) ∧
    ((∀ id ∈ d.ids, ∀ c ∈ uuidCore id, ¬ IsLoose c) →
      (d.check = .ok () ↔ d.Identified IsUuidText)) := by
  refine ⟨isUuid_iff, IsUuidText.isUuid, fun hloose => ?_, Directory.check_eq_ok, fun hloose => ?_⟩
  · exact ⟨fun h => isUuidText_of_isUuid h hloose, IsUuidText.isUuid⟩
  · rw [Directory.check_eq_ok]
    constructor
    · exact fun h => h.mono fun id hid hpass => isUuidText_of_isUuid hpass (hloose id hid)
    · exact fun h => h.mono fun _ _ => IsUuidText.isUuid

theorem isUuid_braced :
    let id := "urn:uuid:\x7b12345678-1234-5678-1234-567812345678\x7d"
    IsUuidText id ∧ isUuid id = true ∧ (⟨id, id, "", ""⟩ : Directory).check = .ok () := by
  intro id
  have hdigits : (uuidCore id).all (fun c => decide (IsHexDigit c)) = true := by decide +kernel
  have hid : IsUuidText id :=
    ⟨by decide +kernel, fun c hc => of_decide_eq_true (List.all_eq_true.1 hdigits c hc)⟩
  obtain ⟨-, hpasses, -, hcheck, -⟩ := uuids_decided id ⟨id, id, "", ""⟩
  exact ⟨hid, hpasses hid, hcheck.2 ⟨hpasses hid, hpasses hid, .inl rfl, .inl rfl⟩⟩

/-- The mark of the radix makes up for two digits. -/
theorem isUuid_marked :
    isUuid "0x345678-1234-1234-1234-123456789012" = true ∧
      ¬ IsUuidText "0x345678-1234-1234-1234-123456789012" := by
  refine ⟨by decide +kernel, fun h => ?_⟩
  exact absurd (h.digits 'x' (by decide +kernel)) (by decide)

end ClusterPlan
