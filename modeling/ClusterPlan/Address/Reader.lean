import ClusterPlan.Address
import ClusterPlan.Numeral
import ClusterPlan.Text.Cut

/-!
# Reading addresses and networks

The textual forms of addresses and networks.

* An IPv4 address is four octets joined by dots, each a decimal number up to 255 in ASCII digits
  without leading zeros.
* An IPv6 address is eight groups of one to four hexadecimal digits joined by colons. One run of
  groups may be left out and shown by a double colon, and the last two groups may be written as an
  IPv4 address. A zone may follow after a percent sign.
* A network is an address, a slash and a prefix length in ASCII digits. For IPv4 the length may
  also be given as a mask: leading ones, or else leading zeros.

The address of a network may have any host bits; the network is the one it lies in.
-/

namespace ClusterPlan

open ClusterPlan.Text

/-- Non-empty and made of ASCII digits. -/
def isDigits (cs : List Char) : Bool :=
  !cs.isEmpty && cs.all Char.isDigit

namespace Address

/-! ## IPv4 -/

/-- One octet of an IPv4 address. -/
def octet? (cs : List Char) : Option Nat :=
  if isDigits cs && cs.length ≤ 3 && (cs == ['0'] || cs.head? != some '0') then
    let value := Numeral.ofDigits cs
    if value ≤ 255 then some value else none
  else none

/-- The word of an IPv4 address. -/
def v4Word? (cs : List Char) : Option (BitVec 32) :=
  match (splitOn '.' cs).map octet? with
  | [some a, some b, some c, some d] =>
    some (BitVec.ofNat 32 (((a * 256 + b) * 256 + c) * 256 + d))
  | _ => none

/-! ## IPv6 -/

/-- One group of an IPv6 address. -/
def group? (cs : List Char) : Option Nat :=
  if !cs.isEmpty && cs.length ≤ 4 && cs.all isHexDigit then
    some (cs.foldl (fun value c => value * 16 + (hexDigit? c).getD 0) 0)
  else none

/-- A piece between colons: left empty, or a group. -/
inductive Piece where
  | empty
  | group (value : Nat)

/-- The pieces of an IPv6 address, an IPv4 address in the last place read as two groups. -/
def pieces? : List (List Char) → Option (List Piece)
  | [] => some []
  | [last] =>
    if last.contains '.' then
      (v4Word? last).map fun word =>
        [.group (word.toNat / twoTo 16), .group (word.toNat % twoTo 16)]
    else if last.isEmpty then some [.empty]
    else (group? last).map fun value => [.group value]
  | piece :: rest =>
    match pieces? rest with
    | none => none
    | some pieces =>
      if piece.isEmpty then some (.empty :: pieces)
      else (group? piece).map fun value => .group value :: pieces

/-- The groups of a list without empty pieces. -/
def groups? : List Piece → Option (List Nat)
  | [] => some []
  | .empty :: _ => none
  | .group value :: rest => (groups? rest).map (value :: ·)

/-- The groups on one side of a double colon, where a single empty piece stands for none. -/
def side? : List Piece → Option (List Nat)
  | [.empty] => some []
  | pieces => groups? pieces

/-- An empty piece. -/
def Piece.isEmpty : Piece → Bool
  | .empty => true
  | .group _ => false

/-- The eight groups of an IPv6 address: eight pieces, or the pieces around the first empty one that
is neither first nor last, with zeros in place of it. -/
def expand? (pieces : List Piece) : Option (List Nat) :=
  match (pieces.drop 1).dropLast.findIdx? Piece.isEmpty with
  | none =>
    match groups? pieces with
    | some groups => if groups.length = 8 then some groups else none
    | none => none
  | some gap =>
    match side? (pieces.take (gap + 1)), side? (pieces.drop (gap + 2)) with
    | some before, some after =>
      if before.length + after.length < 8 then
        some (before ++ List.replicate (8 - before.length - after.length) 0 ++ after)
      else none
    | _, _ => none

/-- The word of an IPv6 address without a zone. -/
def v6Word? (cs : List Char) : Option (BitVec 128) :=
  let parts := splitOn ':' cs
  if parts.length < 3 then none
  else
    match (pieces? parts).bind expand? with
    | some groups => some (BitVec.ofNat 128 (groups.foldl (fun value g => value * twoTo 16 + g) 0))
    | none => none

/-- The word and the zone of an IPv6 address. A zone is not empty and has no percent sign. -/
def v6Parts? (cs : List Char) : Option (BitVec 128 × Option String) :=
  match cut? '%' cs with
  | none => (v6Word? cs).map fun word => (word, none)
  | some (address, zone) =>
    if zone.isEmpty || zone.contains '%' then none
    else (v6Word? address).map fun word => (word, some (String.ofList zone))

/-- The address that a text denotes. -/
def read? (s : String) : Option Address :=
  let cs := s.toList
  if cs.contains '/' then none
  else match v4Word? cs with
    | some word => some (.v4 word)
    | none => (v6Parts? cs).map fun (word, zone) => .v6 word zone

end Address

namespace Network

/-- A prefix length up to a limit, in ASCII digits. -/
def length? (limit : Nat) (cs : List Char) : Option (Fin (limit + 1)) :=
  if isDigits cs && cs.length ≤ Numeral.digitLimit then
    let value := Numeral.ofDigits cs
    if h : value ≤ limit then some ⟨value, Nat.lt_succ_of_le h⟩ else none
  else none

/-- The prefix length whose mask a word is. -/
def maskLength? (word : BitVec 32) : Option (Fin 33) :=
  (List.finRange 33).find? fun length => word == prefixMask 32 length

/-- A prefix length given as a mask: of the network, or else of the host. -/
def lengthOfMask? (cs : List Char) : Option (Fin 33) :=
  match Address.v4Word? cs with
  | some word => (maskLength? word).orElse fun _ => maskLength? (~~~word)
  | none => none

/-- The network that a text denotes. -/
def read? (s : String) : Option Network :=
  match splitOn '/' s.toList with
  | [address, mask] =>
    match Address.v4Word? address with
    | some word =>
      ((length? 32 mask).orElse fun _ => lengthOfMask? mask).map (ofV4 word)
    | none =>
      match Address.v6Parts? address with
      | some (word, zone) => (length? 128 mask).map (ofV6 word zone)
      | none => none
  | _ => none

end Network

end ClusterPlan
