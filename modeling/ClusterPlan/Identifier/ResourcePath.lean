import ClusterPlan.Text.Blank
import ClusterPlan.Text.Cut

/-!
# Resource paths

Cloud resources are named by slash-separated paths. Two kinds of path are recognised here: those of
subnets, which are taken apart, and those of key vaults, which are only tested.

The character between the two words of a provider's name may be any one but a line feed.

The parts of a subnet path are free of slashes, so the path is read from the left without a choice.
A subscription and a resource group of a key vault may hold slashes and are only free of blanks;
the vault's own name is free of both. So the vault is what follows the last slash, the provider's
literal text stands before it, and any inner occurrence of the literal between subscription and
resource group will do.
-/

namespace ClusterPlan.Identifier

open ClusterPlan.Text

/-! ## Subnets -/

/-- The four parts of a subnet path. A pattern may leave a part out. -/
structure SubnetPath where
  subscription : Option String
  group : Option String
  network : Option String
  subnet : Option String
  deriving DecidableEq, Repr

/-- The parts of a path in their order. -/
def SubnetPath.parts (p : SubnetPath) : List (Option String) :=
  [p.subscription, p.group, p.network, p.subnet]

/-- A path from its parts, if there are four of them. -/
def SubnetPath.ofParts? : List (Option String) → Option SubnetPath
  | [subscription, group, network, subnet] => some ⟨subscription, group, network, subnet⟩
  | _ => none

theorem SubnetPath.ofParts?_parts (p : SubnetPath) : ofParts? p.parts = some p := rfl

theorem SubnetPath.ofParts?_eq_none {parts : List (Option String)} :
    ofParts? parts = none ↔ parts.length ≠ 4 := by
  unfold ofParts?
  split
  · simp
  · next hother =>
    refine iff_of_true rfl fun hlength => ?_
    match parts, hlength with
    | [a, b, c, d], _ => exact hother a b c d rfl

/-- Two subnets in the same virtual network. -/
def SubnetPath.sameNetwork (p q : SubnetPath) : Bool :=
  p.subscription == q.subscription && p.group == q.group && p.network == q.network

/-- What stands before the first slash, and the rest from the slash on. -/
def cutPart (cs : List Char) : List Char × List Char :=
  (cs.takeWhile (· != '/'), cs.dropWhile (· != '/'))

/-- The rest of a text after a provider's literal text, in which one character is free. -/
def dropProvider? (before after : String) (cs : List Char) : Option (List Char) :=
  match dropPrefix? before.toList cs with
  | some (free :: rest) => if free = '\n' then none else dropPrefix? after.toList rest
  | _ => none

/-- The parts of a subnet path. -/
def SubnetPath.read? (s : String) : Option SubnetPath := do
  let rest ← dropPrefix? "/subscriptions/".toList s.toList
  let (subscription, rest) := cutPart rest
  let rest ← dropPrefix? "/resourceGroups/".toList rest
  let (group, rest) := cutPart rest
  let rest ← dropProvider? "/providers/Microsoft" "Network/virtualNetworks/" rest
  let (network, rest) := cutPart rest
  let rest ← dropPrefix? "/subnets/".toList rest
  let (subnet, rest) := cutPart rest
  if rest.isEmpty then
    some ⟨String.ofList subscription, String.ofList group, String.ofList network,
      String.ofList subnet⟩
  else none

/-! ## Key vaults -/

/-- A text with an occurrence of a word that has at least one character after it. -/
def hasInner (word : List Char) : List Char → Bool
  | [] => false
  | c :: cs =>
    (word.isPrefixOf (c :: cs) && word.length < (c :: cs).length) || hasInner word cs

/-- A text free of blanks. -/
def isSolid (cs : List Char) : Bool :=
  cs.all fun c => !isBlank c

/-- The text before a provider's literal text at the end of a text, in which one character is
free. -/
def dropProviderEnd? (before after : String) (cs : List Char) : Option (List Char) :=
  match dropPrefix? after.toList.reverse cs.reverse with
  | some (free :: rest) =>
    if free = '\n' then none else (dropPrefix? before.toList.reverse rest).map List.reverse
  | _ => none

/-- The path of a key vault. -/
def isKeyVaultPath (s : String) : Bool :=
  match dropPrefix? "/subscriptions/".toList s.toList with
  | none => false
  | some rest =>
    let vault := (rest.reverse.takeWhile (· != '/')).reverse
    let upToVault := (rest.reverse.dropWhile (· != '/')).reverse
    !vault.isEmpty && isSolid vault &&
      match dropProviderEnd? "/providers/Microsoft" "KeyVault/vaults/" upToVault with
      | none => false
      | some body => isSolid body && hasInner "/resourceGroups/".toList (body.drop 1)

end ClusterPlan.Identifier
