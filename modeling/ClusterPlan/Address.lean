/-!
# Internet addresses and networks

An address is a word of its family: 32 bits for IPv4, 128 bits for IPv6, and an IPv6 address may
name the zone it is local to. A network is the word of its first address and the length of the
prefix that its members share.

Membership looks at the words alone, while equality of addresses includes the zone. So an address
with a zone may lie in a network none of whose ends equals it.
-/

namespace ClusterPlan

/-- The two address families. -/
inductive Family where
  | v4
  | v6
  deriving DecidableEq, Repr

/-- The number of bits in an address. -/
def Family.width : Family → Nat
  | .v4 => 32
  | .v6 => 128

/-- The number that names a family. -/
def Family.number : Family → Nat
  | .v4 => 4
  | .v6 => 6

/-- An address. The zone of an IPv6 address is the text after its percent sign. -/
inductive Address where
  | v4 (word : BitVec 32)
  | v6 (word : BitVec 128) (zone : Option String)
  deriving DecidableEq, Repr

namespace Address

/-- The family of an address. -/
def family : Address → Family
  | v4 _ => .v4
  | v6 _ _ => .v6

/-- The address as a natural number. -/
def toNat : Address → Nat
  | v4 word => word.toNat
  | v6 word _ => word.toNat

/-- The next address of the family, without a zone; the last address has none. -/
def next? : Address → Option Address
  | v4 word => if word = BitVec.allOnes 32 then none else some (v4 (word + 1))
  | v6 word _ => if word = BitVec.allOnes 128 then none else some (v6 (word + 1) none)

end Address

/-- The word whose leading `length` bits are set. -/
def prefixMask (width length : Nat) : BitVec width :=
  BitVec.allOnes width <<< (width - length)

/-- A network: its first address and the length of the common prefix. -/
inductive Network where
  | v4 (first : BitVec 32) (length : Fin 33)
  | v6 (first : BitVec 128) (zone : Option String) (length : Fin 129)
  deriving DecidableEq, Repr

namespace Network

/-- The network of a given prefix length that an IPv4 word lies in. -/
def ofV4 (word : BitVec 32) (length : Fin 33) : Network :=
  v4 (word &&& prefixMask 32 length) length

/-- The network of a given prefix length that an IPv6 address lies in. The zone is kept only if the
address is the first one of the network. -/
def ofV6 (word : BitVec 128) (zone : Option String) (length : Fin 129) : Network :=
  let first := word &&& prefixMask 128 length
  v6 first (if first = word then zone else none) length

/-- The family of a network. -/
def family : Network → Family
  | v4 _ _ => .v4
  | v6 _ _ _ => .v6

/-- The length of the common prefix. -/
def prefixLength : Network → Nat
  | v4 _ length => length
  | v6 _ _ length => length

/-- The number of bits in which members differ. -/
def hostBits (n : Network) : Nat :=
  n.family.width - n.prefixLength

/-- The first address, with the network's zone. -/
def first : Network → Address
  | v4 first _ => .v4 first
  | v6 first zone _ => .v6 first zone

/-- The last address, which never has a zone. -/
def last : Network → Address
  | v4 first length => .v4 (first ||| ~~~(prefixMask 32 length))
  | v6 first _ length => .v6 (first ||| ~~~(prefixMask 128 length)) none

/-- Membership: the same family and, on the prefix, the same bits. -/
def contains : Network → Address → Bool
  | v4 first length, .v4 word => word &&& prefixMask 32 length == first
  | v6 first _ length, .v6 word _ => word &&& prefixMask 128 length == first
  | _, _ => false

end Network

end ClusterPlan
