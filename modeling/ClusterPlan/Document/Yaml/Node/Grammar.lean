import ClusterPlan.Document.Yaml.Node.Implicit
import ClusterPlan.Document.Yaml.Token.Stream

/-!
# Nodes of a token stream

`Graph.ofTokens` reads the one document of a token stream. Collections come in three shapes: with
brackets, in blocks, and as items below a key that are indented no further than the key. A node may
be left out wherever a scalar could stand, and then is an empty scalar; it may also be named by an
anchor and repeated by an alias. A name may be given only once, and an alias must follow its anchor.

Inside brackets a single entry with a colon counts as a map of its own.
-/

namespace ClusterPlan.Yaml

/-- How far a token stream has been read: what is left of it, the nodes found so far, the nodes that
have names, and what the handles of tags stand for. -/
structure Reading where
  rest : TokenStream
  graph : Graph
  names : List (String × Nat)
  handles : List (String × String)

/-- A step of reading. -/
abbrev Reader := StateT Reading (Except Fault)

namespace Reader

/-! ## Tokens -/

/-- The next token. -/
def peek : Reader Token := do
  let r ← get
  match r.rest.tokens with
  | t :: _ => return t
  | [] => throw r.rest.fault

/-- Go past the next token. -/
def pass : Reader Unit :=
  modify fun r => { r with rest := { r.rest with tokens := r.rest.tokens.drop 1 } }

/-- The next token is one of the given ones. -/
def sees (ts : List Token) : Reader Bool := do
  let t ← peek
  return ts.contains t

/-- Go past a token if it comes next, and say whether it did. -/
def accept (t : Token) : Reader Bool := do
  let seen ← sees [t]
  if seen then pass
  return seen

/-- Go past a token that has to come next. -/
def expect (t : Token) : Reader Unit := do
  let seen ← accept t
  if !seen then throw .malformed

/-! ## Nodes -/

/-- A new node. -/
def add (node : Node) : Reader Nat := do
  let r ← get
  set { r with graph := r.graph.push node }
  return r.graph.size

/-- Give a node its parts. -/
def fill (id : Nat) (content : Content) : Reader Unit :=
  modify fun r => { r with graph := r.graph.modify id fun node => { node with content } }

/-- A scalar that is left out. -/
def empty : Reader Nat := add ⟨.null, .scalar []⟩

/-- The node that an alias repeats. -/
def named (name : String) : Reader Nat := do
  let r ← get
  match r.names.lookup name with
  | some id => return id
  | none => throw .malformed

/-- Refuse a name that is given already. -/
def checkName (name : Option String) : Reader Unit := do
  let r ← get
  match name with
  | some n => if (r.names.lookup n).isSome then throw .malformed
  | none => pure ()

/-- Give a node a name. -/
def giveName (name : Option String) (id : Nat) : Reader Unit :=
  match name with
  | some n => modify fun r => { r with names := (n, id) :: r.names }
  | none => pure ()

/-- An anchor, if one comes next. -/
def anchor? : Reader (Option String) := do
  match ← peek with
  | .anchor name => pass; return some name
  | _ => return none

/-- A tag, if one comes next. -/
def tag? : Reader (Option TagText) := do
  match ← peek with
  | .tag t => pass; return some t
  | _ => return none

/-- The anchor and the tag before a node, in either order. -/
def properties : Reader (Option String × Option TagText) := do
  match ← anchor? with
  | some name => return (some name, ← tag?)
  | none =>
    let t ← tag?
    if t.isSome then return (← anchor?, t)
    return (none, none)

/-- A tag in full. Nothing is left of a tag that asks for no particular kind. -/
def fullTag (t : Option TagText) : Reader (Option (Option String)) := do
  match t with
  | none => return none
  | some ⟨none, suffix⟩ => return some (if suffix == "!" then none else some suffix)
  | some ⟨some handle, suffix⟩ =>
    let r ← get
    match r.handles.lookup handle with
    | none => throw .malformed
    | some lead =>
      return some (some (lead ++ suffix))

/-- The kind of a scalar by its tag, or else by its form if it is plain. -/
def scalarTag (tag : Option (Option String)) (plain : Bool) (codes : List Nat) : Tag :=
  match tag with
  | some (some name) => .ofName name
  | some none => .ofPlain (codes.map Char.ofNat)
  | none => if plain then .ofPlain (codes.map Char.ofNat) else .text

/-- The kind of a collection by its tag. -/
def collectionTag (tag : Option (Option String)) (otherwise : Tag) : Tag :=
  match tag with
  | some (some name) => .ofName name
  | _ => otherwise

/-- A collection whose parts are read after it has got its number and its name. -/
def collection (name : Option String) (tag : Tag) (parts : Reader Content) : Reader Nat := do
  checkName name
  let id ← add ⟨tag, .scalar []⟩
  giveName name id
  fill id (← parts)
  return id

mutual

/-- A node. Blocks are allowed if `block` is set, and items indented no further than the key above
them if `items` is set. The counter bounds the number of steps. -/
def node (block items : Bool) : Nat → Reader Nat
  | 0 => throw .malformed
  | steps + 1 => do
    match ← peek with
    | .alias name => pass; named name
    | _ =>
      let (name, written) ← properties
      let tag ← fullTag written
      match ← peek with
      | .scalar codes plain =>
        pass
        checkName name
        let id ← add ⟨scalarTag tag plain codes, .scalar codes⟩
        giveName name id
        return id
      | .flowSequence =>
        collection name (collectionTag tag .sequence) do
          pass
          return .sequence (← flowItems true [] steps)
      | .flowMapping =>
        collection name (collectionTag tag .mapping) do
          pass
          return .mapping (← flowEntries true [] steps)
      | next =>
        if items && next == .item then
          collection name (collectionTag tag .sequence) do
            return .sequence (← looseItems [] steps)
        else if block && next == .blockSequence then
          collection name (collectionTag tag .sequence) do
            pass
            return .sequence (← blockItems [] steps)
        else if block && next == .blockMapping then
          collection name (collectionTag tag .mapping) do
            pass
            return .mapping (← blockEntries [] steps)
        else if name.isSome || written.isSome then
          checkName name
          let id ← add ⟨scalarTag tag true [], .scalar []⟩
          giveName name id
          return id
        else throw .malformed

/-- The items of a block, after those read already, last first. -/
def blockItems (done : List Nat) : Nat → Reader (List Nat)
  | 0 => throw .malformed
  | steps + 1 => do
    if ← accept .item then
      let id ← if ← sees [.item, .blockEnd] then empty else node true false steps
      blockItems (id :: done) steps
    else
      expect .blockEnd
      return done.reverse

/-- The items below a key that are indented no further than the key. -/
def looseItems (done : List Nat) : Nat → Reader (List Nat)
  | 0 => throw .malformed
  | steps + 1 => do
    if ← accept .item then
      let id ← if ← sees [.item, .key, .value, .blockEnd] then empty else node true false steps
      looseItems (id :: done) steps
    else return done.reverse

/-- The entries of a map in a block. -/
def blockEntries (done : List (Nat × Nat)) : Nat → Reader (List (Nat × Nat))
  | 0 => throw .malformed
  | steps + 1 => do
    if ← accept .key then
      let key ← if ← sees [.key, .value, .blockEnd] then empty else node true true steps
      let value ←
        if ← accept .value then
          if ← sees [.key, .value, .blockEnd] then empty else node true true steps
        else empty
      blockEntries ((key, value) :: done) steps
    else
      expect .blockEnd
      return done.reverse

/-- The items between brackets. -/
def flowItems (first : Bool) (done : List Nat) : Nat → Reader (List Nat)
  | 0 => throw .malformed
  | steps + 1 => do
    if ← accept .flowSequenceEnd then return done.reverse
    if !first then expect .comma
    if ← sees [.key] then
      let id ← collection none .mapping do
        pass
        let key ←
          if ← sees [.value, .comma, .flowSequenceEnd] then empty else node false false steps
        let value ←
          if ← accept .value then
            if ← sees [.comma, .flowSequenceEnd] then empty else node false false steps
          else empty
        return .mapping [(key, value)]
      flowItems false (id :: done) steps
    else if ← accept .flowSequenceEnd then return done.reverse
    else
      let id ← node false false steps
      flowItems false (id :: done) steps

/-- The entries of a map between braces. -/
def flowEntries (first : Bool) (done : List (Nat × Nat)) : Nat → Reader (List (Nat × Nat))
  | 0 => throw .malformed
  | steps + 1 => do
    if ← accept .flowMappingEnd then return done.reverse
    if !first then expect .comma
    if ← accept .key then
      let key ←
        if ← sees [.value, .comma, .flowMappingEnd] then empty else node false false steps
      let value ←
        if ← accept .value then
          if ← sees [.comma, .flowMappingEnd] then empty else node false false steps
        else empty
      flowEntries false ((key, value) :: done) steps
    else if ← accept .flowMappingEnd then return done.reverse
    else
      let key ← node false false steps
      let value ← empty
      flowEntries false ((key, value) :: done) steps

end

/-! ## Documents -/

/-- The handles that need no declaration. -/
def knownHandles : List (String × String) := [("!", "!"), ("!!", Tag.lead)]

/-- The handles that the directives of a document declare. -/
def directives (version : Bool) (declared : List (String × String)) :
    Nat → Reader (List (String × String))
  | 0 => throw .malformed
  | steps + 1 => do
    match ← peek with
    | .directive (.version major) =>
      pass
      if version || major != 1 then throw .malformed
      directives true declared steps
    | .directive (.handle handle lead) =>
      pass
      if (declared.lookup handle).isSome then throw .malformed
      directives version ((handle, lead) :: declared) steps
    | .directive .other => pass; directives version declared steps
    | _ => return declared ++ knownHandles

/-- Go past the marks that end a document. -/
def passEnds : Nat → Reader Unit
  | 0 => throw .malformed
  | steps + 1 => do
    if ← accept .documentEnd then passEnds steps

/-- The root of the only document of the stream, nothing if the stream is empty. A document that is
announced by directives or a mark may be empty. -/
def document (steps : Nat) : Reader (Option Nat) := do
  let root ← match ← peek with
    | .streamEnd => return none
    | .directive _ | .documentStart =>
      let handles ← directives false [] steps
      modify fun r => { r with handles }
      expect .documentStart
      match ← peek with
      | .directive _ | .documentStart | .documentEnd | .streamEnd => empty
      | _ => node true false steps
    | _ =>
      modify fun r => { r with handles := knownHandles }
      node true false steps
  passEnds steps
  if !(← accept .streamEnd) then
    -- A second document, which is one too many.
    discard (directives false [] steps)
    throw .malformed
  return some root

end Reader

/-- The nodes of a token stream and the number of the root, if there is one. -/
def Graph.ofTokens (ts : TokenStream) : Except Fault (Graph × Option Nat) :=
  match (Reader.document (2 * ts.tokens.length + 4)).run ⟨ts, #[], [], []⟩ with
  | .ok (root, r) => .ok (r.graph, root)
  | .error fault => .error fault

end ClusterPlan.Yaml
