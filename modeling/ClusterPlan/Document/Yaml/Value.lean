import ClusterPlan.Binary64.Decimal
import ClusterPlan.Document.Yaml.Node.Grammar
import ClusterPlan.Numeral
import ClusterPlan.Text.Base64

/-!
# Values of YAML nodes

What the nodes of a document stand for. `Graph.toDocument` evaluates the nodes in the order of their
distance from the root, each of them once, and stops at the first fault; then it puts the values
together into a document. A document has no cycles and a graph may, so the document goes down to a
given depth and holds null below it.

Keys of maps are scalars. The key `<<` merges the entries of a map, or of several maps, before those
that stand in the map itself, which take precedence; of several maps the first one does.
-/

namespace ClusterPlan.Yaml

open ClusterPlan.Text

/-! ## Scalars -/

/-- The characters of a numeral without underscores. -/
def withoutSpacers (cs : List Char) : List Char :=
  cs.filter (· != '_')

/-- The sign of a number and what follows it. -/
def cutMinus (cs : List Char) : Bool × List Char :=
  (cs.head? == some '-', afterSign cs)

/-- The integer of digits in radix sixty. -/
def ofSixtieths (digits : List Int) : Int :=
  digits.foldl (fun value d => value * 60 + d) 0

/-- The integer that a scalar denotes. -/
def readInteger (cs : List Char) : Except Fault Int :=
  let (negative, unsigned) := cutMinus (withoutSpacers cs)
  let value : Option Int := match unsigned with
    | [] => none
    | ['0'] => some 0
    | '0' :: 'b' :: digits => Numeral.read 2 digits
    | '0' :: 'x' :: digits => Numeral.read 16 digits
    | '0' :: digits => Numeral.read 8 ('0' :: digits)
    | _ => ((splitOn ':' unsigned).mapM (Numeral.read 10)).map ofSixtieths
  match value with
  | some i => .ok (if negative then -i else i)
  | none => .error .impossibleValue

/-- The real number that a text denotes, words for infinity and for no number included. -/
def realOfText? (cs : List Char) : Option Binary64 :=
  let (negative, unsigned) := Numeral.cutSign (trim isAsciiBlank (cs.map Numeral.plain))
  let word := String.ofList (unsigned.map Char.toLower)
  if word == "inf" || word == "infinity" then some (.infinite negative)
  else if word == "nan" then some .nan
  else Binary64.readDecimal negative unsigned

/-- The real number of digits in radix sixty, the last one first, with the weight of that one. There
is none if a weight is too great for a real number, whatever its digit is. -/
def sumSixtieths? (value : Binary64) (weight : Int) : List Binary64 → Option Binary64
  | [] => some value
  | d :: ds =>
    match Binary64.ofInt weight with
    | .infinite _ => none
    | factor => sumSixtieths? (value.add (d.mul factor)) (weight * 60) ds

/-- The real number that a scalar denotes. -/
def readReal (cs : List Char) : Except Fault Binary64 :=
  let (negative, unsigned) := cutMinus ((withoutSpacers cs).map Char.toLower)
  let sign := Binary64.ofInt (if negative then -1 else 1)
  let value : Option Binary64 :=
    if unsigned == ".inf".toList then some (.infinite false)
    else if unsigned == ".nan".toList then some .nan
    else match splitOn ':' unsigned with
      | [_] => realOfText? unsigned
      | groups => (groups.mapM realOfText?).bind fun ds => sumSixtieths? .zero 1 ds.reverse
  match value with
  | some x => .ok (sign.mul x)
  | none => .error .impossibleValue

/-- The flag that a word stands for. -/
def readFlag (cs : List Char) : Except Fault Bool :=
  let word := String.ofList (cs.map Char.toLower)
  if ["yes", "true", "on"].contains word then .ok true
  else if ["no", "false", "off"].contains word then .ok false
  else .error .impossibleValue

/-- The bytes of a scalar in base 64. -/
def readBytes (codes : List Nat) : Except Fault (List UInt8) :=
  if codes.any (0x7F < ·) then .error .malformed
  else match Base64.decodeLenient (codes.map Char.ofNat) with
    | some bytes => .ok bytes
    | none => .error .malformed

/-- The moment or the date that a scalar denotes, if it exists. -/
def readExistingMoment (cs : List Char) : Except Fault Scalar :=
  let text := if cs.getLast? == some '\n' then cs.dropLast else cs
  match readMoment text with
  | none => .error .impossibleValue
  | some (m, _, dateOnly) =>
    if m.year < 1 || m.month < 1 || 12 < m.month || m.day < 1 ||
        Moment.daysIn m.year m.month < m.day || 23 < m.hour || 59 < m.minute || 59 < m.second ||
        m.offset.any (1440 ≤ ·.natAbs) then .error .impossibleValue
    else if dateOnly then .ok (.date m.year m.month m.day)
    else .ok (.moment m)

/-- The value of a scalar of a given kind. -/
def readScalar (tag : Tag) (codes : List Nat) : Except Fault Scalar :=
  let cs := codes.map Char.ofNat
  match tag with
  | .null => .ok .null
  | .flag => (readFlag cs).map .flag
  | .int => (readInteger cs).map .int
  | .real => (readReal cs).map .real
  | .bytes => (readBytes codes).map .bytes
  | .moment => readExistingMoment cs
  | .text => .ok (.ofCodes codes)
  | _ => .error .malformed

/-! ## Merging -/

/-- The graph in which a map has no merge key any more, from a position in its entries on. The
entries merged so far come before the others in the end. The counter bounds the number of steps. -/
def flatten : Nat → Nat → Nat → List (Nat × Nat) → Graph → Except Fault Graph
  | 0, _, _, _, g => .ok g
  | steps + 1, id, position, merged, g =>
    match (g.entries id)[position]? with
    | none => .ok (g.setEntries id (merged ++ g.entries id))
    | some (key, value) =>
      match g.tag key with
      | .merge => do
        let g := g.setEntries id ((g.entries id).eraseIdx position)
        match g[value]? with
        | some ⟨_, .mapping _⟩ =>
          let g ← flatten steps value 0 [] g
          flatten steps id position (merged ++ g.entries value) g
        | some ⟨_, .sequence items⟩ =>
          let (g, added) ← items.foldlM (fun (g, added) item =>
            match g[item]? with
            | some ⟨_, .mapping _⟩ => do
              let g ← flatten steps item 0 [] g
              return (g, g.entries item ++ added)
            | _ => throw .malformed) (g, [])
          flatten steps id position (merged ++ added) g
        | _ => throw .malformed
      | .default =>
        flatten steps id (position + 1) merged (g.modify key fun node => { node with tag := .text })
      | _ => flatten steps id (position + 1) merged g

/-! ## Evaluation -/

/-- The value of a node, whose parts are other nodes. -/
inductive Value where
  | scalar (s : Scalar)
  | list (items : List Nat)
  | pairs (items : List (Nat × Nat))
  | map (entries : List (Scalar × Nat))
  | set (elements : List Scalar)

/-- How far a graph has been evaluated: the nodes, the values found, and the collections whose parts
are still to be looked at. -/
structure Evaluation where
  graph : Graph
  values : Array (Option Value)
  waiting : List Nat

namespace Evaluation

/-- The code points of a scalar node. A map with a default key counts as what stands under that key.
Default keys may lead around in a circle, and then there are no code points. -/
def codes (g : Graph) : Nat → Nat → Except Fault (List Nat)
  | 0, _ => .error .impossibleValue
  | steps + 1, id =>
    match g[id]?, g.defaultValue? id with
    | some ⟨_, .scalar codes⟩, _ => .ok codes
    | _, some value => Evaluation.codes g steps value
    | _, none => .error .malformed

/-- Evaluate a node unless that is done already. The parts of a collection have to wait. -/
def visit (id : Nat) (e : Evaluation) : Except Fault Evaluation :=
  if (e.values[id]?).join.isSome then .ok e
  else
    let wait (v : Value) : Except Fault Evaluation :=
      .ok { e with values := e.values.modify id fun _ => some v, waiting := id :: e.waiting }
    match e.graph.tag id with
    | .sequence => wait (.list [])
    | .orderedMap | .pairs => wait (.pairs [])
    | .mapping => wait (.map [])
    | .set => wait (.set [])
    | tag => do
      let codes ← codes e.graph (e.graph.size + 1) id
      -- a moment is read off the node itself
      if tag = .moment && e.graph.isMapping id then throw .impossibleValue
      let s ← readScalar tag codes
      return { e with values := e.values.modify id fun _ => some (.scalar s) }

/-- Evaluate a node that is used as a key. -/
def visitKey (id : Nat) (e : Evaluation) : Except Fault (Scalar × Evaluation) := do
  let e ← e.visit id
  match (e.values[id]?).join with
  | some (.scalar s) => return (s, e)
  | _ => throw .malformed

/-- Evaluate the keys and values of a map. -/
def visitEntries (id : Nat) (e : Evaluation) : Except Fault (List (Scalar × Nat) × Evaluation) := do
  match e.graph[id]? with
  | some ⟨_, .mapping _⟩ =>
    let total := e.graph.foldl (fun n node => match node.content with
      | .mapping entries => n + entries.length
      | _ => n) 1
    let graph ← flatten (total * total * total + total) id 0 [] e.graph
    let (found, e) ← (graph.entries id).foldlM (fun (found, e) (key, value) => do
      let (s, e) ← visitKey key e
      let e ← visit value e
      return ((s, value) :: found, e)) (([] : List (Scalar × Nat)), { e with graph })
    return (Document.entriesOf found.reverse, e)
  | _ => throw .malformed

/-- The only entry of a map. -/
def singleEntry (e : Evaluation) (id : Nat) : Except Fault (Nat × Nat) :=
  match e.graph[id]? with
  | some ⟨_, .mapping [entry]⟩ => .ok entry
  | _ => .error .malformed

/-- Evaluate the parts of a collection. -/
def visitParts (id : Nat) (e : Evaluation) : Except Fault Evaluation := do
  let put (v : Value) (e : Evaluation) : Evaluation :=
    { e with values := e.values.modify id fun _ => some v }
  match (e.values[id]?).join with
  | some (.map _) =>
    let (entries, e) ← visitEntries id e
    return put (.map entries) e
  | some (.set _) =>
    let (entries, e) ← visitEntries id e
    return put (.set (entries.map (·.1))) e
  | some (.list _) =>
    match e.graph[id]? with
    | some ⟨_, .sequence items⟩ =>
      let e ← items.foldlM (fun e item => visit item e) e
      return put (.list items) e
    | _ => throw .malformed
  | some (.pairs _) =>
    match e.graph[id]? with
    | some ⟨_, .sequence items⟩ =>
      let (found, e) ← items.foldlM (fun (found, e) item => do
        let (key, value) ← singleEntry e item
        let e ← visit key e
        let e ← visit value e
        return ((key, value) :: found, e)) (([] : List (Nat × Nat)), e)
      return put (.pairs found.reverse) e
    | _ => throw .malformed
  | _ => return e

/-- Evaluate all collections that wait, the nearest to the root first. -/
def run : Nat → Evaluation → Except Fault Evaluation
  | 0, e => .ok e
  | steps + 1, e =>
    match e.waiting.reverse with
    | [] => .ok e
    | waiting => do
      let e ← waiting.foldlM (fun e id => visitParts id e) { e with waiting := [] }
      run steps e

end Evaluation

/-! ## Documents -/

/-- The document of a value, from the documents of its parts. -/
def Value.toDocument (parts : Array Document) : Value → Document
  | scalar s => .scalar s
  | list items => .list (items.map fun id => parts.getD id .null)
  | pairs items => .list (items.map fun (key, value) =>
      .list [parts.getD key .null, parts.getD value .null])
  | map entries => .map (entries.map fun (key, value) => (key, parts.getD value .null))
  | set elements => .set elements

/-- The documents of all values down to a depth. -/
def documentsTo (values : Array (Option Value)) : Nat → Array Document
  | 0 => values.map fun _ => .null
  | depth + 1 =>
    let parts := documentsTo values depth
    values.map fun v => (v.map (·.toDocument parts)).getD .null

/-- The document that a node stands for, down to a depth. -/
def Graph.toDocument (g : Graph) (root depth : Nat) : Except Fault Document := do
  let e ← Evaluation.visit root ⟨g, g.map fun _ => none, []⟩
  let e ← e.run (g.size + 1)
  return (documentsTo e.values depth).getD root .null

/-- The document that a YAML text denotes, down to a depth. A text without a document is null. -/
def read (depth : Nat) (cs : List Char) : Except Fault Document := do
  match ← Graph.ofTokens (TokenStream.ofText cs) with
  | (g, some root) => g.toDocument root depth
  | (_, none) => return .null

end ClusterPlan.Yaml
