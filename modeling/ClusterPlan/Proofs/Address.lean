import ClusterPlan.Address.Reader
import Mathlib.Algebra.Group.Nat.Defs

/-!
# Networks as intervals

A network is given by bits: its first address has no bits behind the prefix, its last one has all of
them, and a member has the bits of the first address on the prefix. As numbers these are the ends
and the members of an interval whose length is a power of two (`Network.toNat_last`,
`Network.contains_iff`). This needs that the first address is aligned, which holds of every network
that is read from a text (`Network.isAligned_of_read?`).

Equality of addresses is finer than equality of their numbers, since it includes the zone
(`Address.eq_iff`), and the successor of an address never has one (`Address.of_next?_eq_some`).
-/

namespace ClusterPlan

/-! ## Words -/

/-- The number of words that share a prefix of a given length. -/
def blockSize (width length : Nat) : Nat := 2 ^ (width - length)

theorem blockSize_pos (width length : Nat) : 0 < blockSize width length :=
  Nat.two_pow_pos (width - length)

theorem blockSize_dvd (width length : Nat) : blockSize width length ∣ 2 ^ width :=
  Nat.pow_dvd_pow 2 (Nat.sub_le width length)

section words

variable {width : Nat} (word first : BitVec width) (length : Nat)

/-- A word on a prefix is the greatest multiple of the block size up to it. -/
theorem toNat_and_prefixMask :
    (word &&& prefixMask width length).toNat =
      word.toNat / blockSize width length * blockSize width length := by
  have hshift : word &&& prefixMask width length =
      word >>> (width - length) <<< (width - length) := by
    apply BitVec.eq_of_getLsbD_eq
    intro i hi
    simp only [prefixMask, BitVec.getLsbD_and, BitVec.getLsbD_shiftLeft, BitVec.getLsbD_allOnes,
      BitVec.getLsbD_ushiftRight]
    by_cases hlow : i < width - length
    · simp [hlow]
    · have hback : width - length + (i - (width - length)) = i := by omega
      have hinside : i - (width - length) < width := by omega
      simp [hlow, hi, hback, hinside]
  have hle : word.toNat / blockSize width length * blockSize width length < 2 ^ width :=
    Nat.lt_of_le_of_lt (Nat.div_mul_le_self _ _) word.isLt
  rw [hshift, BitVec.toNat_shiftLeft, BitVec.toNat_ushiftRight, Nat.shiftLeft_eq,
    Nat.shiftRight_eq_div_pow]
  exact Nat.mod_eq_of_lt hle

/-- The bits behind a prefix, all set, make up the greatest number below the block size. -/
theorem toNat_not_prefixMask :
    (~~~prefixMask width length).toNat = blockSize width length - 1 := by
  have hsize := blockSize_pos width length
  obtain ⟨blocks, hblocks⟩ := blockSize_dvd width length
  obtain ⟨others, rfl⟩ : ∃ others, blocks = others + 1 :=
    Nat.exists_eq_add_one.2 (Nat.pos_of_mul_pos_left (hblocks ▸ Nat.two_pow_pos width))
  have hones : 2 ^ width - 1 = blockSize width length * others + (blockSize width length - 1) := by
    rw [hblocks, Nat.mul_add_one]
    omega
  have hmask : (prefixMask width length).toNat = others * blockSize width length := by
    have hword := toNat_and_prefixMask (BitVec.allOnes width) length
    rwa [BitVec.allOnes_and, BitVec.toNat_allOnes, hones, Nat.mul_add_div hsize,
      Nat.div_eq_of_lt (Nat.sub_lt hsize Nat.one_pos), Nat.add_zero] at hword
  rw [BitVec.toNat_not, hmask, hones, Nat.mul_comm]
  omega

variable {word first length}

/-- The last word of a block. -/
theorem toNat_or_not_prefixMask (haligned : first &&& prefixMask width length = first) :
    (first ||| ~~~prefixMask width length).toNat =
      first.toNat + (blockSize width length - 1) := by
  have hfirst := toNat_and_prefixMask first length
  rw [haligned, Nat.mul_comm] at hfirst
  have hlt : blockSize width length - 1 < 2 ^ (width - length) :=
    Nat.sub_lt (blockSize_pos width length) Nat.one_pos
  rw [BitVec.toNat_or, toNat_not_prefixMask, hfirst]
  exact (Nat.two_pow_add_eq_or_of_lt hlt _).symm

/-- The words of a block are those from its first to its last one. -/
theorem and_prefixMask_eq_iff (haligned : first &&& prefixMask width length = first) :
    word &&& prefixMask width length = first ↔
      first.toNat ≤ word.toNat ∧ word.toNat ≤ first.toNat + (blockSize width length - 1) := by
  have hpos := blockSize_pos width length
  have hfirst := toNat_and_prefixMask first length
  rw [haligned] at hfirst
  rw [← BitVec.toNat_inj, toNat_and_prefixMask]
  constructor
  · intro h
    have hword := Nat.div_add_mod' word.toNat (blockSize width length)
    have hrest := Nat.mod_lt word.toNat hpos
    omega
  · rintro ⟨hlow, hhigh⟩
    have hblock : word.toNat / blockSize width length = first.toNat / blockSize width length := by
      apply Nat.div_eq_of_lt_le
      · omega
      · rw [Nat.add_one_mul]
        omega
    rw [hblock, ← hfirst]

end words

/-! ## Addresses -/

namespace Address

/-- The zone that an address names. -/
def zone : Address → Option String
  | v4 _ => none
  | v6 _ zone => zone

/-- Addresses are equal iff they have the same family, number and zone. -/
theorem eq_iff {a b : Address} :
    a = b ↔ a.family = b.family ∧ a.toNat = b.toNat ∧ a.zone = b.zone := by
  cases a <;> cases b <;> simp [family, toNat, zone, BitVec.toNat_inj]

theorem toNat_lt (a : Address) : a.toNat < 2 ^ a.family.width := by
  cases a with
  | v4 word => exact word.isLt
  | v6 word zone => exact word.isLt

/-- Only the last address of a family has no successor. -/
theorem next?_eq_none {a : Address} : a.next? = none ↔ a.toNat + 1 = 2 ^ a.family.width := by
  cases a with
  | v4 word => simp [next?, toNat, family, Family.width, ← BitVec.toNat_inj]
  | v6 word zone => simp [next?, toNat, family, Family.width, ← BitVec.toNat_inj]

/-- The successor of an address has the next number and no zone. -/
theorem of_next?_eq_some {a b : Address} (h : a.next? = some b) :
    b.family = a.family ∧ b.toNat = a.toNat + 1 ∧ b.zone = none := by
  have hsome : ¬ a.next? = none := by simp [h]
  rw [next?_eq_none] at hsome
  have hlt := a.toNat_lt
  cases a with
  | v4 word =>
    simp only [next?] at h
    split at h
    · cases h
    · cases h
      simp [family, toNat, zone, Family.width] at hsome hlt ⊢
      omega
  | v6 word zone' =>
    simp only [next?] at h
    split at h
    · cases h
    · cases h
      simp [family, toNat, zone, Family.width] at hsome hlt ⊢
      omega

end Address

/-! ## Networks -/

namespace Network

/-- The first address of a network has no bits behind the prefix. -/
def IsAligned : Network → Prop
  | v4 first length => first &&& prefixMask 32 length = first
  | v6 first _ length => first &&& prefixMask 128 length = first

theorem isAligned_ofV4 (word : BitVec 32) (length : Fin 33) : (ofV4 word length).IsAligned := by
  rw [ofV4, IsAligned, BitVec.and_assoc, BitVec.and_self]

theorem isAligned_ofV6 (word : BitVec 128) (zone : Option String) (length : Fin 129) :
    (ofV6 word zone length).IsAligned := by
  rw [ofV6, IsAligned, BitVec.and_assoc, BitVec.and_self]

/-- Every network that is read from a text is aligned. -/
theorem isAligned_of_read? {text : String} {n : Network} (h : read? text = some n) :
    n.IsAligned := by
  unfold read? at h
  split at h
  · split at h
    · obtain ⟨length, -, rfl⟩ := Option.map_eq_some_iff.1 h
      exact isAligned_ofV4 _ length
    · split at h
      · obtain ⟨length, -, rfl⟩ := Option.map_eq_some_iff.1 h
        exact isAligned_ofV6 _ _ length
      · cases h
  · cases h

/-- The number of addresses in a network. -/
def size (n : Network) : Nat := 2 ^ n.hostBits

@[simp] theorem family_first (n : Network) : n.first.family = n.family := by
  cases n <;> rfl

@[simp] theorem family_last (n : Network) : n.last.family = n.family := by
  cases n <;> rfl

@[simp] theorem zone_last (n : Network) : n.last.zone = none := by
  cases n <;> rfl

variable {n : Network} (h : n.IsAligned)
include h

/-- The last address of a network is as far from the first one as the size allows. -/
theorem toNat_last : n.last.toNat = n.first.toNat + (n.size - 1) := by
  cases n with
  | v4 first length => exact toNat_or_not_prefixMask h
  | v6 first zone length => exact toNat_or_not_prefixMask h

/-- The members of a network are the addresses of its family from the first to the last one, in
whatever zone. -/
theorem contains_iff {a : Address} :
    n.contains a = true ↔
      a.family = n.family ∧ n.first.toNat ≤ a.toNat ∧ a.toNat ≤ n.last.toNat := by
  rw [toNat_last h]
  cases n with
  | v4 first length =>
    cases a with
    | v4 word =>
      rw [contains, beq_iff_eq, and_prefixMask_eq_iff h]
      exact (and_iff_right rfl).symm
    | v6 word zone => exact iff_of_false (by simp [contains]) (by simp [family, Address.family])
  | v6 first zone length =>
    cases a with
    | v4 word => exact iff_of_false (by simp [contains]) (by simp [family, Address.family])
    | v6 word zone =>
      rw [contains, beq_iff_eq, and_prefixMask_eq_iff h]
      exact (and_iff_right rfl).symm

end Network

end ClusterPlan
