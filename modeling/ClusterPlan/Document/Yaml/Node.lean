import ClusterPlan.Document.Yaml.Token

/-!
# YAML nodes

A YAML document as a graph: an alias names a node that is already there, so nodes may be shared and
may even lie within themselves. Nodes are numbered, and a collection lists the numbers of its parts.
-/

namespace ClusterPlan.Yaml

/-- The kind of value that a node's tag asks for. -/
inductive Tag where
  | null
  | flag
  | int
  | real
  | bytes
  | moment
  | orderedMap
  | pairs
  | set
  | text
  | sequence
  | mapping
  /-- The key whose value is merged into the map. -/
  | merge
  /-- The key that stands for the value of the whole map. -/
  | default
  | unknown
  deriving DecidableEq, Repr

/-- The beginning that the tags of the format have in common. -/
def Tag.lead : String := "tag:yaml.org,2002:"

/-- The tags that a node may ask for by name. -/
def Tag.named : List (String × Tag) :=
  [("null", null), ("bool", flag), ("int", int), ("float", real), ("binary", bytes),
    ("timestamp", moment), ("omap", orderedMap), ("pairs", pairs), ("set", set), ("str", text),
    ("seq", sequence), ("map", mapping), ("merge", merge), ("value", default)]

/-- The kind of value that a full tag asks for. -/
def Tag.ofName (name : String) : Tag :=
  ((named.find? fun (n, _) => lead ++ n == name).map (·.2)).getD unknown

/-- What a node is made of. -/
inductive Content where
  | scalar (codes : List Nat)
  | sequence (items : List Nat)
  | mapping (entries : List (Nat × Nat))
  deriving Repr

/-- A node. -/
structure Node where
  tag : Tag
  content : Content
  deriving Repr

/-- The nodes of a document by their numbers. -/
abbrev Graph := Array Node

/-- The entries of a map, nothing for any other node. -/
def Graph.entries (g : Graph) (id : Nat) : List (Nat × Nat) :=
  match g[id]? with
  | some ⟨_, .mapping entries⟩ => entries
  | _ => []

/-- The tag of a node. -/
def Graph.tag (g : Graph) (id : Nat) : Tag :=
  ((g[id]?).map (·.tag)).getD .unknown

/-- The value under the default key of a map. -/
def Graph.defaultValue? (g : Graph) (id : Nat) : Option Nat :=
  ((g.entries id).find? fun (key, _) => g.tag key == .default).map Prod.snd

/-- A node is a map. -/
def Graph.isMapping (g : Graph) (id : Nat) : Bool :=
  match g[id]? with
  | some ⟨_, .mapping _⟩ => true
  | _ => false

/-- The same graph with other entries for a map. -/
def Graph.setEntries (g : Graph) (id : Nat) (entries : List (Nat × Nat)) : Graph :=
  g.modify id fun node => { node with content := .mapping entries }

end ClusterPlan.Yaml
