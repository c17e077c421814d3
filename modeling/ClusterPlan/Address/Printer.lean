import ClusterPlan.Address
import ClusterPlan.Power
import ClusterPlan.Text.Digit

/-!
# Printing addresses and networks

The canonical texts. An IPv4 address is its four octets in decimal. An IPv6 address is its eight
groups in lower-case hexadecimal, with the first of the longest runs of two or more zero groups
shown as a double colon, and its zone after a percent sign. A network is its first address, a slash
and its prefix length.
-/

namespace ClusterPlan

open ClusterPlan.Text

namespace Address

/-- The digits of a word in a radix, most significant first. -/
def places (radix : Nat) : Nat → Nat → List Nat
  | 0, _ => []
  | count + 1, value => places radix count (value / radix) ++ [value % radix]

/-- The start and the length of the first of the longest runs of zeros, found by going through the
list with the position, the current run and the best one so far. -/
def longestZeros (position run : Nat) (best : Nat × Nat) : List Nat → Nat × Nat
  | [] => best
  | g :: rest =>
    if g = 0 then
      let run := run + 1
      let best := if best.2 < run then (position + 1 - run, run) else best
      longestZeros (position + 1) run best rest
    else longestZeros (position + 1) 0 best rest

/-- Groups in hexadecimal, joined by colons. -/
def groupText (groups : List Nat) : String :=
  String.intercalate ":" (groups.map fun g => String.ofList (hex 1 g))

/-- The groups of an IPv6 address with the longest run of zeros left out. -/
def compressed (groups : List Nat) : String :=
  let (start, count) := longestZeros 0 0 (0, 0) groups
  if count < 2 then groupText groups
  else groupText (groups.take start) ++ "::" ++ groupText (groups.drop (start + count))

/-- The canonical text of an address. -/
def toText : Address → String
  | v4 word => String.intercalate "." ((places 256 4 word.toNat).map Nat.repr)
  | v6 word zone =>
    compressed (places (twoTo 16) 8 word.toNat) ++
      match zone with
      | some zone => "%" ++ zone
      | none => ""

end Address

/-- The canonical text of a network. -/
def Network.toText (n : Network) : String :=
  n.first.toText ++ "/" ++ Nat.repr n.prefixLength

end ClusterPlan
