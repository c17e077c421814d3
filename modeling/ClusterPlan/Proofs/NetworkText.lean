import ClusterPlan.Proofs.AddressText

/-!
# The texts of networks

A network is written as an address, a slash and a mask. The address may have any bits behind the
prefix: the network read is the one around it (`Network.IsAround`), which begins where these bits
are cleared and ends where they are set. Its own text is read back as the network, since its first
address has no such bits and keeps its zone (`Network.read?_toText`).

`network_coherent` collects how addresses, networks and membership go together.
-/

namespace ClusterPlan

open ClusterPlan.Text

/-! ## Bits -/

section bits

variable {width : Nat} (word : BitVec width) (length i : Nat)

/-- A word on a prefix has the bits behind it cleared. -/
theorem testBit_and_prefixMask :
    (word &&& prefixMask width length).toNat.testBit i =
      (decide (width - length ≤ i) && word.toNat.testBit i) := by
  rw [BitVec.testBit_toNat, BitVec.testBit_toNat, BitVec.getLsbD_and, prefixMask,
    BitVec.getLsbD_shiftLeft, BitVec.getLsbD_allOnes]
  by_cases hi : i < width
  · by_cases hlow : i < width - length
    · simp [hlow, Nat.not_le.2 hlow]
    · have hback : i - (width - length) < width := by omega
      simp [hlow, hi, hback, Nat.not_lt.1 hlow]
  · rw [BitVec.getLsbD_of_ge word i (Nat.not_lt.1 hi)]
    simp

/-- The last word of a block has the bits behind the prefix set. -/
theorem testBit_or_not_prefixMask :
    (word ||| ~~~prefixMask width length).toNat.testBit i =
      (decide (i < width - length) || word.toNat.testBit i) := by
  rw [BitVec.testBit_toNat, BitVec.testBit_toNat, BitVec.getLsbD_or, BitVec.getLsbD_not, prefixMask,
    BitVec.getLsbD_shiftLeft, BitVec.getLsbD_allOnes]
  by_cases hi : i < width
  · by_cases hlow : i < width - length
    · simp [hlow, hi]
    · have hback : i - (width - length) < width := by omega
      simp [hlow, hi, hback]
  · have hhigh : ¬ i < width - length := by omega
    rw [BitVec.getLsbD_of_ge word i (Nat.not_lt.1 hi)]
    simp [hi, hhigh]

end bits

namespace Network

/-! ## The network of an address -/

/-- A network of some prefix length that an address lies in: the first address has the bits behind
the prefix cleared, the last one has them set, and the zone is that of the address or none. -/
structure IsAround (n : Network) (a : Address) : Prop where
  family : a.family = n.family
  first : ∀ i, n.first.toNat.testBit i = (decide (n.hostBits ≤ i) && a.toNat.testBit i)
  last : ∀ i, n.last.toNat.testBit i = (decide (i < n.hostBits) || n.first.toNat.testBit i)
  zone : n.first.zone = none ∨ n.first.zone = a.zone

theorem isAround_ofV4 (word : BitVec 32) (length : Fin 33) :
    (ofV4 word length).IsAround (.v4 word) where
  family := rfl
  first := testBit_and_prefixMask word length
  last := testBit_or_not_prefixMask (word &&& prefixMask 32 length) length
  zone := .inl rfl

theorem isAround_ofV6 (word : BitVec 128) (zone : Option String) (length : Fin 129) :
    (ofV6 word zone length).IsAround (.v6 word zone) where
  family := rfl
  first := testBit_and_prefixMask word length
  last := testBit_or_not_prefixMask (word &&& prefixMask 128 length) length
  zone := by
    simp only [ofV6, Network.first, Address.zone]
    split
    · exact .inr rfl
    · exact .inl rfl

/-- A network contains the address that it is around. -/
theorem IsAround.contains {n : Network} {a : Address} (h : n.IsAround a) : n.contains a = true := by
  have hsame : ∀ {width : Nat} {word first : BitVec width} {length : Nat},
      (∀ i, first.toNat.testBit i =
        (decide (width - length ≤ i) && word.toNat.testBit i)) →
      (word &&& prefixMask width length == first) = true := by
    intro width word first length hfirst
    rw [beq_iff_eq]
    apply BitVec.eq_of_toNat_eq
    apply Nat.eq_of_testBit_eq
    intro i
    rw [testBit_and_prefixMask, hfirst i]
  have hfamily := h.family
  cases n with
  | v4 first length =>
    cases a with
    | v4 word => exact hsame h.first
    | v6 word zone => cases hfamily
  | v6 first zone length =>
    cases a with
    | v4 word => cases hfamily
    | v6 word zone' => exact hsame h.first

/-- A network is written as an address, a slash and a mask, and it is around the address. -/
theorem exists_parts_of_read? {text : String} {n : Network} (h : read? text = some n) :
    ∃ address mask a, text = address ++ "/" ++ mask ∧ '/' ∉ address.toList ∧ '/' ∉ mask.toList ∧
      Address.read? address = some a ∧ n.IsAround a := by
  unfold read? at h
  split at h
  · next address mask hsplit =>
    have hslash : ∀ piece ∈ [address, mask], '/' ∉ (String.ofList piece).toList := by
      intro piece hpiece
      rw [String.toList_ofList]
      exact not_mem_of_mem_splitOn (hsplit ▸ hpiece)
    have htext : text = String.ofList address ++ "/" ++ String.ofList mask := by
      have hjoin := joinWith_splitOn '/' text.toList
      rw [hsplit] at hjoin
      apply String.toList_injective
      rw [← hjoin]
      simp [joinWith]
    have haddress := hslash address (by simp)
    obtain ⟨a, ha, haround⟩ :
        ∃ a, Address.read? (String.ofList address) = some a ∧ n.IsAround a := by
      split at h
      · next word hword =>
        obtain ⟨length, -, rfl⟩ := Option.map_eq_some_iff.1 h
        refine ⟨.v4 word, Address.read?_of_v4Word? haddress ?_, isAround_ofV4 word length⟩
        rw [String.toList_ofList, hword]
      · next hnone =>
        split at h
        · next word zone hparts =>
          obtain ⟨length, -, rfl⟩ := Option.map_eq_some_iff.1 h
          refine ⟨.v6 word zone, Address.read?_of_v6Parts? haddress ?_ ?_,
            isAround_ofV6 word zone length⟩
          · rw [String.toList_ofList, hnone]
          · rw [String.toList_ofList, hparts]
        · cases h
    exact ⟨_, _, a, htext, haddress, hslash mask (by simp), ha, haround⟩
  · cases h

/-- A text without a slash is no network. -/
theorem read?_of_not_mem {text : String} (h : '/' ∉ text.toList) : read? text = none := by
  rw [read?, splitOn_of_not_mem h]

/-! ## Canonical texts -/

/-- A prefix length in decimal digits is read back. -/
theorem length?_toDigits {limit : Nat} (hlimit : limit < 1000) (length : Fin (limit + 1)) :
    length? limit (Nat.toDigits 10 length) = some length := by
  have hdigits : (Nat.toDigits 10 length).length ≤ 3 :=
    (Nat.length_toDigits_le_iff (by decide) (by decide)).2 (by omega)
  have hlength : (Nat.toDigits 10 length).length ≤ Numeral.digitLimit :=
    Nat.le_trans hdigits (by decide)
  have hle : (length : Nat) ≤ limit := Nat.le_of_lt_succ length.isLt
  simp [length?, isDigits_toDigits, hlength, ofDigits_toDigits, hle]

/-- A network begins with a readable address that has no bits behind the prefix. -/
structure IsReadable (n : Network) : Prop where
  aligned : n.IsAligned
  first : n.first.IsReadable

/-- What is read is readable. -/
theorem isReadable_of_read? {text : String} {n : Network} (h : read? text = some n) :
    n.IsReadable := by
  obtain ⟨address, mask, a, -, -, -, ha, haround⟩ := exists_parts_of_read? h
  refine ⟨isAligned_of_read? h, fun z hz => ?_⟩
  rcases haround.zone with hnone | hsame
  · rw [hnone] at hz
    cases hz
  · exact Address.isReadable_of_read? ha z (hsame ▸ hz)

/-- The text of a network is read back as the network. -/
theorem read?_toText {n : Network} (h : n.IsReadable) : read? n.toText = some n := by
  have hmask : '/' ∉ (Nat.repr n.prefixLength).toList := by
    rw [Nat.toList_repr]
    exact fun hslash =>
      absurd (Nat.isDigit_of_mem_toDigits (by decide) (by decide) hslash) (by decide)
  have hsplit : splitOn '/' n.toText.toList =
      [n.first.toText.toList, Nat.toDigits 10 n.prefixLength] := by
    have htext : n.toText.toList =
        n.first.toText.toList ++ '/' :: (Nat.repr n.prefixLength).toList := by
      simp [toText]
    rw [htext, splitOn_append_of_not_mem (Address.slash_not_mem_toText h.first),
      splitOn_of_not_mem hmask, Nat.toList_repr]
  rw [read?, hsplit]
  -- an aligned first address is not changed by the prefix
  cases n with
  | v4 first length =>
    have hfirst : ofV4 first length = v4 first length := by
      rw [ofV4, show _ = first from h.aligned]
    have hlength := length?_toDigits (by decide) length
    simp only [Network.first, prefixLength, Address.v4Word?_toText, hlength]
    exact congrArg some hfirst
  | v6 first zone length =>
    have hfirst : ofV6 first zone length = v6 first zone length := by
      simp [ofV6, show first &&& prefixMask 128 length = first from h.aligned]
    have hlength := length?_toDigits (by decide) length
    have hparts : Address.v6Parts? (Address.v6 first zone).toText.toList = some (first, zone) :=
      Address.v6Parts?_toText first h.first
    simp only [Network.first, prefixLength, Address.v4Word?_toText_v6, hparts, hlength]
    exact congrArg some hfirst

/-- Networks can be read iff they are readable. -/
theorem exists_read?_iff {n : Network} : (∃ text, read? text = some n) ↔ n.IsReadable := by
  constructor
  · rintro ⟨text, h⟩
    exact isReadable_of_read? h
  · exact fun h => ⟨n.toText, read?_toText h⟩

end Network

/-! ## Both together -/

/-- **Addresses, networks and their texts.** A network is read from a text with one slash, and what
stands before it is an address that the network is around. The addresses of a network are those of
its family from the first to the last one. Canonical texts are read back as what they are the texts
of. Without a slash no network is read. All readable addresses and networks are read from some
text, and no others. -/
theorem network_coherent :
    (∀ text n, Network.read? text = some n →
      (∃ address mask a, text = address ++ "/" ++ mask ∧ '/' ∉ address.toList ∧
        '/' ∉ mask.toList ∧ Address.read? address = some a ∧ n.IsAround a ∧ n.contains a = true) ∧
      (∀ other a, Address.read? other = some a →
        (n.contains a = true ↔
          a.family = n.family ∧ n.first.toNat ≤ a.toNat ∧ a.toNat ≤ n.last.toNat)) ∧
      Network.read? n.toText = some n) ∧
    (∀ text a, Address.read? text = some a → Address.read? a.toText = some a) ∧
    (∀ text : String, '/' ∉ text.toList → Network.read? text = none) ∧
    (∀ a : Address, (∃ text, Address.read? text = some a) ↔ a.IsReadable) ∧
    ∀ n : Network, (∃ text, Network.read? text = some n) ↔ n.IsReadable := by
  refine ⟨fun text n h => ?_, fun text a h => ?_, fun text h => Network.read?_of_not_mem h,
    fun a => Address.exists_read?_iff, fun n => Network.exists_read?_iff⟩
  · have hreadable := Network.isReadable_of_read? h
    obtain ⟨address, mask, a, htext, haddress, hmask, ha, haround⟩ :=
      Network.exists_parts_of_read? h
    refine ⟨⟨address, mask, a, htext, haddress, hmask, ha, haround, haround.contains⟩, ?_, ?_⟩
    · exact fun _ _ _ => Network.contains_iff hreadable.aligned
    · exact Network.read?_toText hreadable
  · exact Address.read?_toText (Address.isReadable_of_read? h)

theorem hostMask_coherent :
    let n := Network.v4 0x0a000000#32 8
    let a := Address.v6 0xfd000000000000000000000000000001#128 (some "eth0")
    Network.read? "10.1.2.3/0.255.255.255" = some n ∧ n.toText = "10.0.0.0/8" ∧
      Network.read? "10.0.0.0/8" = some n ∧
      n.contains (.v4 0x0aff0001#32) = true ∧
      Address.read? "fd00::1%eth0" = some a ∧ Network.read? "10.1.2.3" = none := by
  intro n a
  obtain ⟨hnetworks, haddresses, hnone, -, -⟩ := network_coherent
  have hread : Network.read? "10.1.2.3/0.255.255.255" = some n := by rfl
  have htext : n.toText = "10.0.0.0/8" := by decide
  obtain ⟨-, hmembers, hagain⟩ := hnetworks _ n hread
  refine ⟨hread, htext, htext ▸ hagain, ?_, ?_, hnone _ (by decide)⟩
  · exact (hmembers "10.255.0.1" _ (by rfl)).2 (by decide)
  · exact haddresses "fd00:0:0::0001%eth0" a (by rfl)

end ClusterPlan
