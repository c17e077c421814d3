import ClusterPlan.Document.Yaml.Node.Grammar
import ClusterPlan.Proofs.Outcome

/-!
# Where the nodes of a YAML graph come from

The nodes that are read from a token stream are made of its tokens (`Node.IsWritten`). A scalar has
the code points of a scalar token, or none if it is left out. The kind of a node is the one that the
tag before it asks for, the one that a plain scalar has by its form, or that of a quoted text or of
a collection without a tag.

A reader is described by what it keeps. `Reader.KeepsAt ts r holds m` says that from a reading `r`
of the stream `ts` the reader `m` comes to another one, with a result that has the property `holds`,
and that it fails with a value that cannot be read only if that is what ails the stream. The nodes
found before keep their kinds, since the node of a collection gets its parts only after these have
been read (`Reader.collection_safe`). Where the reading itself does not matter, `Reader.Keeps` says
the same of all readings.
-/

namespace ClusterPlan.Yaml

/-! ## Written nodes -/

/-- A handle stands for the beginning of tags, by itself or because the stream says so. -/
def IsHandle (tokens : List Token) (handle lead : String) : Prop :=
  (handle, lead) ∈ Reader.knownHandles ∨ .directive (.handle handle lead) ∈ tokens

/-- A tag of a token stream stands for a full name. -/
def TagText.Names (tokens : List Token) (t : TagText) (name : String) : Prop :=
  (t.handle = none ∧ name = t.suffix) ∨
    ∃ handle lead, t.handle = some handle ∧ IsHandle tokens handle lead ∧ name = lead ++ t.suffix

/-- A tag stands before a token, with at most an anchor in between. -/
def TagText.StandsBefore (tokens : List Token) (t : TagText) (next : Token) : Prop :=
  ∃ label : Option String, .tag t :: ((label.map Token.anchor).toList ++ [next]) <:+: tokens

/-- A tag with a full name stands before a token. -/
def IsTagged (tokens : List Token) (name : String) (next : Token) : Prop :=
  ∃ t : TagText, t.Names tokens name ∧ t.StandsBefore tokens next

/-- What the tag before a token says in full: a name, or that no particular kind is asked for. -/
structure IsTagOf (tokens : List Token) (tag : Option (Option String)) (next : Token) : Prop where
  name : ∀ name, tag = some (some name) → IsTagged tokens name next
  anyKind : tag = some none → TagText.StandsBefore tokens ⟨none, "!"⟩ next

/-- The code points of a scalar are written in a token stream, or left out. -/
def WritesScalar (tokens : List Token) (codes : List Nat) : Prop :=
  codes = [] ∨ ∃ plain, .scalar codes plain ∈ tokens

/-- A scalar begins at a token: it is that token, or it is left out before it. -/
def Token.BeginsScalar (t : Token) (codes : List Nat) : Prop :=
  match t with
  | .scalar written _ => codes = written
  | _ => codes = []

/-- A collection begins at a token. -/
def Token.BeginsCollection (t : Token) : Prop :=
  t ∈ [.flowSequence, .flowMapping, .item, .blockSequence, .blockMapping]

instance (t : Token) : Decidable t.BeginsCollection := inferInstanceAs (Decidable (t ∈ _))

/-- The kind of a collection or of a quoted text: the one that the tag before the collection asks
for, or the one it has without a tag. -/
def Tag.IsGiven (tokens : List Token) (tag : Tag) : Prop :=
  tag ∈ [.text, .sequence, .mapping] ∨
    ∃ name next, IsTagged tokens name next ∧ next.BeginsCollection ∧ tag = .ofName name

/-- The form of a scalar counts: it is plain or left out, or the tag before it asks for no
particular kind. -/
def CountsByForm (tokens : List Token) (codes : List Nat) : Prop :=
  codes = [] ∨ .scalar codes true ∈ tokens ∨
    ∃ plain, TagText.StandsBefore tokens ⟨none, "!"⟩ (.scalar codes plain)

/-- The kind of a scalar: the one that it has by its form, if that counts, or the one that the tag
before it asks for. -/
def Tag.IsAsked (tokens : List Token) (tag : Tag) (codes : List Nat) : Prop :=
  (CountsByForm tokens codes ∧ tag = .ofPlain (codes.map Char.ofNat)) ∨
    ∃ name next, IsTagged tokens name next ∧ next.BeginsScalar codes ∧ tag = .ofName name

/-- A node is made of tokens. -/
structure Node.IsWritten (tokens : List Token) (node : Node) : Prop where
  codes : ∀ codes, node.content = .scalar codes → WritesScalar tokens codes
  tag : node.tag.IsGiven tokens ∨
    ∃ codes, node.content = .scalar codes ∧ node.tag.IsAsked tokens codes

/-- Parts are no scalar. -/
def Content.IsCollection : Content → Prop
  | .scalar _ => False
  | _ => True

namespace Node.IsWritten

variable {tokens : List Token} {tag : Tag} {content : Content} {codes : List Nat}

/-- A collection is made of tokens if its kind is. -/
theorem collection (htag : tag.IsGiven tokens) (hcontent : content.IsCollection) :
    Node.IsWritten tokens ⟨tag, content⟩ := by
  refine ⟨?_, .inl htag⟩
  intro codes hcodes
  rw [show content = .scalar codes from hcodes] at hcontent
  exact hcontent.elim

/-- A scalar is made of tokens if its code points and its kind are. -/
theorem scalar (hcodes : WritesScalar tokens codes)
    (htag : tag.IsGiven tokens ∨ tag.IsAsked tokens codes) :
    Node.IsWritten tokens ⟨tag, .scalar codes⟩ := by
  refine ⟨?_, htag.imp_right fun h => ⟨codes, rfl, h⟩⟩
  intro codes' heq
  cases heq
  exact hcodes

/-- The kind of a collection has nothing to do with its parts. -/
theorem isGiven (h : Node.IsWritten tokens ⟨tag, content⟩) (hcontent : content.IsCollection) :
    tag.IsGiven tokens := by
  rcases h.tag with htag | ⟨codes, hcodes, -⟩
  · exact htag
  · rw [show content = .scalar codes from hcodes] at hcontent
    exact hcontent.elim

/-- A value that is left out is null. -/
theorem empty : Node.IsWritten tokens ⟨.null, .scalar []⟩ :=
  scalar (.inl rfl) (.inr (.inl ⟨.inl rfl, rfl⟩))

end Node.IsWritten

/-! ## Readings -/

/-- A reading of a token stream. -/
structure Reading.IsOf (ts : TokenStream) (r : Reading) : Prop where
  tokens : r.rest.tokens <:+ ts.tokens
  fault : r.rest.fault = ts.fault
  nodes : ∀ node ∈ r.graph, node.IsWritten ts.tokens
  handles : ∀ h ∈ r.handles, IsHandle ts.tokens h.1 h.2

/-- The kind of a node, if there is one. -/
def Graph.kind? (g : Graph) (id : Nat) : Option Tag := (g[id]?).map (·.tag)

/-- All nodes of one graph have the same kinds in another graph. -/
def Graph.KindsIn (g g' : Graph) : Prop :=
  ∀ id tag, g.kind? id = some tag → g'.kind? id = some tag

theorem Graph.KindsIn.refl (g : Graph) : g.KindsIn g := fun _ _ h => h

/-- Kinds are kept from one graph to the next. -/
theorem Graph.KindsIn.trans {g g' g'' : Graph} (h : g.KindsIn g') (h' : g'.KindsIn g'') :
    g.KindsIn g'' := fun id tag hid => h' id tag (h id tag hid)

/-- A new node leaves the others as they are. -/
theorem Graph.kindsIn_push (g : Graph) (node : Node) : g.KindsIn (g.push node) := by
  intro id tag hid
  unfold kind? at hid ⊢
  rw [Array.getElem?_push]
  split
  · next hsize =>
    rw [hsize, Array.getElem?_eq_none (Nat.le_refl _)] at hid
    cases hid
  · exact hid

/-- A change of one node that keeps its kind keeps all kinds. -/
theorem Graph.kindsIn_modify (g : Graph) (id : Nat) {f : Node → Node}
    (hf : ∀ node, (f node).tag = node.tag) : g.KindsIn (g.modify id f) := by
  intro other tag hother
  unfold kind? at hother ⊢
  rw [Array.getElem?_modify]
  split
  · rw [Option.map_map, ← hother]
    exact congrArg (Option.map · _) (funext hf)
  · exact hother

/-- A node of a graph in which one node has been changed is an old one or the changed one. -/
theorem Graph.mem_modify {g : Graph} {id : Nat} {f : Node → Node} {node : Node}
    (h : node ∈ g.modify id f) : node ∈ g ∨ ∃ old, g[id]? = some old ∧ node = f old := by
  obtain ⟨i, hi⟩ := Array.mem_iff_getElem?.1 h
  rw [Array.getElem?_modify] at hi
  split at hi
  · next heq =>
    rw [← heq] at hi
    obtain ⟨old, hold, rfl⟩ := Option.map_eq_some_iff.1 hi
    exact .inr ⟨old, hold, rfl⟩
  · exact .inl (Array.mem_of_getElem? hi)

/-- A reading may get another node that is made of tokens. -/
theorem Reading.IsOf.push {ts : TokenStream} {r : Reading} (hr : r.IsOf ts) {node : Node}
    (hnode : node.IsWritten ts.tokens) : Reading.IsOf ts { r with graph := r.graph.push node } := by
  refine { hr with nodes := ?_ }
  intro other hother
  rcases Array.mem_push.1 hother with hold | rfl
  · exact hr.nodes other hold
  · exact hnode

/-- A node of a given kind may get any parts. -/
theorem Reading.IsOf.fill {ts : TokenStream} {r : Reading} (hr : r.IsOf ts) {id : Nat} {tag : Tag}
    (hid : r.graph.kind? id = some tag) (htag : tag.IsGiven ts.tokens) {content : Content}
    (hcontent : content.IsCollection) :
    Reading.IsOf ts
      { r with graph := r.graph.modify id fun node => { node with content := content } } := by
  refine { hr with nodes := ?_ }
  intro node hnode
  change node ∈ r.graph.modify id fun node => { node with content := content } at hnode
  rcases Graph.mem_modify hnode with hold | ⟨old, hold, rfl⟩
  · exact hr.nodes node hold
  · rw [Graph.kind?, hold] at hid
    cases hid
    exact .collection htag hcontent

namespace Reader

/-- From a reading of a stream a reader comes to another one, in which the nodes found before have
the same kinds. Its result and the new reading have a given property. -/
def KeepsAt {α : Type} (ts : TokenStream) (r : Reading) (holds : α → Reading → Prop)
    (m : Reader α) : Prop :=
  Meets (fun fault => fault = .impossibleValue → ts.fault = .impossibleValue)
    (fun out => out.2.IsOf ts ∧ r.graph.KindsIn out.2.graph ∧ holds out.1 out.2) (m.run r)

/-- From every reading of a stream a reader comes to another one with a result of a given kind. -/
def Keeps {α : Type} (ts : TokenStream) (holds : α → Prop) (m : Reader α) : Prop :=
  ∀ r : Reading, r.IsOf ts → KeepsAt ts r (fun a _ => holds a) m

/-- A reader keeps a stream whatever its result is. -/
abbrev IsSafe {α : Type} (ts : TokenStream) (m : Reader α) : Prop := Keeps ts (fun _ => True) m

namespace KeepsAt

variable {α β : Type} {ts : TokenStream} {r : Reading} {holds : α → Reading → Prop}
  {holds' : β → Reading → Prop} {m : Reader α}

/-- A reader that only returns keeps a stream if the result is right. -/
theorem pure {a : α} (hr : r.IsOf ts) (h : holds a r) : KeepsAt ts r holds (pure a) :=
  .ok ⟨hr, Graph.KindsIn.refl _, h⟩

/-- A reader may always refuse a stream as malformed. -/
theorem malformed : KeepsAt ts r holds (throw .malformed) :=
  .error nofun

/-- What is known about a result may be said in part. -/
theorem weaken (h : KeepsAt ts r holds m) {holds'' : α → Reading → Prop}
    (himp : ∀ a r', holds a r' → holds'' a r') : KeepsAt ts r holds'' m :=
  Meets.weaken h fun _ hout => ⟨hout.1, hout.2.1, himp _ _ hout.2.2⟩

/-- Two readers, one after the other: the second begins where the first one has come to. -/
theorem bind {next : α → Reader β} (h : KeepsAt ts r holds m)
    (hnext : ∀ a r', r'.IsOf ts → r.graph.KindsIn r'.graph → holds a r' →
      KeepsAt ts r' holds' (next a)) : KeepsAt ts r holds' (m >>= next) := by
  unfold KeepsAt
  rw [StateT.run_bind]
  refine Meets.bind h ?_
  rintro ⟨a, r'⟩ ⟨hr', hkinds, ha⟩
  refine Meets.weaken (hnext a r' hr' hkinds ha) ?_
  rintro out ⟨hout, hkinds', hb⟩
  exact ⟨hout, hkinds.trans hkinds', hb⟩

/-- A look at the reading does not change it. -/
theorem get (hr : r.IsOf ts) : KeepsAt ts r (fun a r' => a = r ∧ r' = r) get :=
  .ok ⟨hr, Graph.KindsIn.refl _, rfl, rfl⟩

end KeepsAt

namespace Keeps

variable {α β : Type} {ts : TokenStream} {holds : α → Prop} {holds' : β → Prop} {m : Reader α}

theorem pure {a : α} (h : holds a) : Keeps ts holds (pure a) :=
  fun _ hr => .pure hr h

theorem malformed : Keeps ts holds (throw .malformed) :=
  fun _ _ => .malformed

theorem safe (h : Keeps ts holds m) : IsSafe ts m :=
  fun r hr => (h r hr).weaken fun _ _ _ => trivial

/-- Two readers, one after the other, where only the result of the first one matters. -/
theorem bind {next : α → Reader β} (h : Keeps ts holds m)
    (hnext : ∀ a, holds a → Keeps ts holds' (next a)) : Keeps ts holds' (m >>= next) :=
  fun r hr => .bind (h r hr) fun a r' hr' _ ha => hnext a ha r' hr'

/-- A reader that goes on in one of two ways. -/
theorem ite {condition : Prop} [Decidable condition] {first second : Reader α}
    (hfirst : Keeps ts holds first) (hsecond : Keeps ts holds second) :
    Keeps ts holds (if condition then first else second) := by
  split
  · exact hfirst
  · exact hsecond

theorem get : Keeps ts (·.IsOf ts) get :=
  fun _ hr => .ok ⟨hr, Graph.KindsIn.refl _, hr⟩

/-- A change of a reading that concerns no node. -/
theorem modify {f : Reading → Reading} (hf : ∀ r, r.IsOf ts → (f r).IsOf ts)
    (hgraph : ∀ r, (f r).graph = r.graph) : IsSafe ts (modify f) := by
  intro r hr
  refine .ok ⟨hf r hr, ?_, trivial⟩
  show r.graph.KindsIn (f r).graph
  rw [hgraph]
  exact .refl _

end Keeps

variable {ts : TokenStream} {r : Reading}

/-- What is found under a name is an entry of the list. -/
theorem mem_of_lookup {α : Type} {name : String} {a : α} {entries : List (String × α)}
    (h : entries.lookup name = some a) : (name, a) ∈ entries := by
  obtain ⟨before, after, rfl, -⟩ := List.lookup_eq_some_iff.1 h
  exact List.mem_append_right before List.mem_cons_self

/-! ## Tokens -/

/-- The next token is the first of those that are left. -/
theorem peek_at (hr : r.IsOf ts) :
    KeepsAt ts r (fun t r' => r' = r ∧ ∃ rest, r.rest.tokens = t :: rest) peek := by
  refine KeepsAt.bind (.get hr) ?_
  rintro _ _ - - ⟨rfl, rfl⟩
  split
  · next t rest htokens => exact .pure hr ⟨rfl, rest, htokens⟩
  · rw [hr.fault]
    exact .error id

/-- A step leaves out one token. -/
theorem pass_at (hr : r.IsOf ts) :
    KeepsAt ts r (fun _ r' => r'.rest.tokens = r.rest.tokens.drop 1) pass :=
  .ok ⟨{ hr with tokens := (List.drop_suffix 1 _).trans hr.tokens }, Graph.KindsIn.refl _, rfl⟩

/-- The next token is one of the stream. -/
theorem peek_keeps : Keeps ts (· ∈ ts.tokens) peek := by
  intro r hr
  refine (peek_at hr).weaken ?_
  rintro t _ ⟨-, rest, htokens⟩
  refine hr.tokens.mem ?_
  rw [htokens]
  exact List.mem_cons_self

theorem pass_safe : IsSafe ts pass :=
  fun _ hr => (pass_at hr).weaken fun _ _ _ => trivial

/-- To look for certain tokens keeps a stream. -/
theorem sees_safe (expected : List Token) : IsSafe ts (sees expected) :=
  .bind peek_keeps fun _ _ => .pure trivial

/-- To take a token that may be there keeps a stream. -/
theorem accept_safe (t : Token) : IsSafe ts (accept t) := by
  refine .bind (sees_safe [t]) ?_
  intro seen _
  exact .ite (.bind pass_safe fun _ _ => .pure trivial) (.pure trivial)

/-- To take a token that must be there keeps a stream, or it is malformed. -/
theorem expect_safe (t : Token) : IsSafe ts (expect t) := by
  refine .bind (accept_safe t) ?_
  intro seen _
  exact .ite .malformed (.pure trivial)

/-! ## Names and tags of nodes -/

/-- An alias names a node, or it is malformed. -/
theorem named_safe (name : String) : IsSafe ts (named name) := by
  refine .bind .get ?_
  intro r _
  split
  · exact .pure trivial
  · exact .malformed

/-- An anchor may not be given twice. -/
theorem checkName_safe (name : Option String) : IsSafe ts (checkName name) := by
  refine .bind .get ?_
  intro r _
  split
  · exact .ite .malformed (.pure trivial)
  · exact .pure trivial

/-- An anchor does not change nodes. -/
theorem giveName_safe (name : Option String) (id : Nat) : IsSafe ts (giveName name id) := by
  unfold giveName
  split
  · exact .modify (fun _ hr => { hr with }) fun _ => rfl
  · exact .pure trivial

/-- An anchor is taken off the tokens if there is one. -/
theorem anchor?_at (hr : r.IsOf ts) :
    KeepsAt ts r (fun name r' =>
      r.rest.tokens = (name.map Token.anchor).toList ++ r'.rest.tokens) anchor? := by
  refine .bind (peek_at hr) ?_
  rintro t _ - - ⟨rfl, rest, htokens⟩
  split
  · refine .bind (pass_at hr) ?_
    intro _ r' hr' _ hpassed
    refine .pure hr' ?_
    rw [hpassed, htokens]
    rfl
  · exact .pure hr rfl

/-- A tag is taken off the tokens if there is one. -/
theorem tag?_at (hr : r.IsOf ts) :
    KeepsAt ts r (fun written r' =>
      r.rest.tokens = (written.map Token.tag).toList ++ r'.rest.tokens) tag? := by
  refine .bind (peek_at hr) ?_
  rintro t _ - - ⟨rfl, rest, htokens⟩
  split
  · refine .bind (pass_at hr) ?_
    intro _ r' hr' _ hpassed
    refine .pure hr' ?_
    rw [hpassed, htokens]
    rfl
  · exact .pure hr rfl

/-- What is left to read comes right after the tag, or after the anchor behind it. -/
theorem properties_at (hr : r.IsOf ts) :
    KeepsAt ts r (fun out r' => ∀ t, out.2 = some t → ∃ label : Option String,
      .tag t :: ((label.map Token.anchor).toList ++ r'.rest.tokens) <:+ ts.tokens) properties := by
  refine .bind (anchor?_at hr) ?_
  intro name r₁ hr₁ _ _
  split
  · refine .bind (tag?_at hr₁) ?_
    intro written r₂ hr₂ _ htokens
    have hplace := hr₁.tokens
    rw [htokens] at hplace
    refine .pure hr₂ ?_
    rintro t rfl
    exact ⟨none, hplace⟩
  · refine .bind (tag?_at hr₁) ?_
    intro written r₂ hr₂ _ htokens
    split
    · refine .bind (anchor?_at hr₂) ?_
      intro label r₃ hr₃ _ hlabel
      have hplace := hr₁.tokens
      rw [htokens, hlabel] at hplace
      refine .pure hr₃ ?_
      rintro t rfl
      exact ⟨label, hplace⟩
    · exact .pure hr₂ nofun

/-- A tag that is written before a token says in full what the token is tagged with. -/
theorem fullTag_at (hr : r.IsOf ts) (written : Option TagText) :
    KeepsAt ts r (fun tag r' => r' = r ∧
      ∀ next, (∀ t, written = some t → t.StandsBefore ts.tokens next) →
        IsTagOf ts.tokens tag next) (fullTag written) := by
  unfold fullTag
  split
  · exact .pure hr ⟨rfl, fun _ _ => ⟨nofun, nofun⟩⟩
  · next suffix =>
    split
    · next hanyKind =>
      refine .pure hr ⟨rfl, fun next hbefore => ⟨nofun, fun _ => ?_⟩⟩
      rw [← eq_of_beq hanyKind]
      exact hbefore _ rfl
    · refine .pure hr ⟨rfl, fun next hbefore => ⟨?_, nofun⟩⟩
      rintro _ ⟨⟩
      exact ⟨_, .inl ⟨rfl, rfl⟩, hbefore _ rfl⟩
  · next handle suffix =>
    refine .bind (.get hr) ?_
    rintro _ _ - - ⟨rfl, rfl⟩
    split
    · exact .malformed
    · next lead hlead =>
      have hhandle := hr.handles _ (mem_of_lookup hlead)
      refine .pure hr ⟨rfl, fun next hbefore => ⟨?_, nofun⟩⟩
      rintro _ ⟨⟩
      exact ⟨_, .inr ⟨handle, lead, rfl, hhandle, rfl⟩, hbefore _ rfl⟩

/-! ## Nodes -/

/-- A new node has the kind that it is given. -/
theorem add_at (hr : r.IsOf ts) {node : Node} (hnode : node.IsWritten ts.tokens) :
    KeepsAt ts r (fun id r' => r'.graph.kind? id = some node.tag) (add node) := by
  refine .ok ⟨hr.push hnode, r.graph.kindsIn_push node, ?_⟩
  show Graph.kind? (r.graph.push node) r.graph.size = some node.tag
  rw [Graph.kind?, Array.getElem?_push_size, Option.map_some]

theorem add_safe {node : Node} (hnode : node.IsWritten ts.tokens) : IsSafe ts (add node) :=
  fun _ hr => (add_at hr hnode).weaken fun _ _ _ => trivial

theorem empty_safe : IsSafe ts empty := add_safe .empty

/-- A node of a collection may get its parts. -/
theorem fill_at (hr : r.IsOf ts) {id : Nat} {tag : Tag} {content : Content}
    (hid : r.graph.kind? id = some tag) (htag : tag.IsGiven ts.tokens)
    (hcontent : content.IsCollection) : KeepsAt ts r (fun _ _ => True) (fill id content) :=
  .ok ⟨hr.fill hid htag hcontent, r.graph.kindsIn_modify id fun _ => rfl, trivial⟩

/-- The node of a collection has no content of its own while the parts are read. It still has its
kind after that, so the content that it gets then is none to which the kind would have to fit. -/
theorem collection_safe {name : Option String} {tag : Tag} {parts : Reader Content}
    (htag : tag.IsGiven ts.tokens) (hparts : Keeps ts Content.IsCollection parts) :
    IsSafe ts (collection name tag parts) := by
  refine .bind (checkName_safe name) ?_
  intro _ _ r hr
  refine .bind (add_at hr (.scalar (.inl rfl) (.inl htag))) ?_
  intro id r₁ hr₁ _ hid
  refine .bind (giveName_safe name id r₁ hr₁) ?_
  intro _ r₂ hr₂ hnamed _
  refine .bind (hparts r₂ hr₂) ?_
  intro content r₃ hr₃ hread hcontent
  refine .bind (fill_at hr₃ (hread id tag (hnamed id tag hid)) htag hcontent) ?_
  intro _ r₄ hr₄ _ _
  exact .pure hr₄ trivial

/-- The kind of a scalar is given by the tag before it or by its form. -/
theorem scalarTag_isWritten {tag : Option (Option String)} {next : Token} {codes : List Nat}
    {plain : Bool} (htag : IsTagOf ts.tokens tag next) (hnext : next.BeginsScalar codes)
    (hcodes : codes = [] ∨ .scalar codes plain ∈ ts.tokens) :
    Node.IsWritten ts.tokens ⟨scalarTag tag plain codes, .scalar codes⟩ := by
  refine .scalar (hcodes.imp_right fun h => ⟨plain, h⟩) ?_
  unfold scalarTag
  split
  · next name => exact .inr (.inr ⟨name, next, htag.name name rfl, hnext, rfl⟩)
  · refine .inr (.inl ⟨?_, rfl⟩)
    cases next with
    | scalar written plain =>
      rw [show codes = written from hnext]
      exact .inr (.inr ⟨plain, htag.anyKind rfl⟩)
    | _ => exact .inl hnext
  · split
    · next hplain =>
      rw [hplain] at hcodes
      exact .inr (.inl ⟨hcodes.imp_right .inl, rfl⟩)
    · exact .inl (.inl (by decide))

/-- The kind of a collection is given by the tag before it or by its form. -/
theorem collectionTag_isGiven {tag : Option (Option String)} {next : Token} {otherwise : Tag}
    (htag : IsTagOf ts.tokens tag next) (hnext : next.BeginsCollection)
    (hother : otherwise ∈ [.text, .sequence, .mapping]) :
    (collectionTag tag otherwise).IsGiven ts.tokens := by
  unfold collectionTag
  split
  · next name => exact .inr ⟨name, next, htag.name name rfl, hnext, rfl⟩
  · exact .inl hother

/-- A node that may have an anchor is added under that name. -/
theorem labelled_safe (name : Option String) {node : Node} (hnode : node.IsWritten ts.tokens) :
    IsSafe ts (do
      checkName name
      let id ← add node
      giveName name id
      return id) := by
  refine .bind (checkName_safe name) fun _ _ => .bind (add_safe hnode) fun id _ => ?_
  exact .bind (giveName_safe name id) fun _ _ => .pure trivial

/-- The readers of nodes and parts with a number of steps keep a stream. -/
structure IsSafeFor (ts : TokenStream) (steps : Nat) : Prop where
  node : ∀ block items, IsSafe ts (node block items steps)
  blockItems : ∀ done, IsSafe ts (blockItems done steps)
  looseItems : ∀ done, IsSafe ts (looseItems done steps)
  blockEntries : ∀ done, IsSafe ts (blockEntries done steps)
  flowItems : ∀ first done, IsSafe ts (flowItems first done steps)
  flowEntries : ∀ first done, IsSafe ts (flowEntries first done steps)

namespace IsSafeFor

variable {steps : Nat} {α : Type} {holds : α → Prop}

/-- A part may be left out before certain tokens. -/
theorem part (h : IsSafeFor ts steps) (stops : List Token) (block items : Bool)
    {next : Nat → Reader α} (hnext : ∀ id, Keeps ts holds (next id)) :
    Keeps ts holds (do
      if ← sees stops then
        let id ← empty
        next id
      else
        let id ← Reader.node block items steps
        next id) := by
  refine .bind (sees_safe stops) ?_
  intro seen _
  exact .ite (.bind empty_safe fun id _ => hnext id)
    (.bind (h.node block items) fun id _ => hnext id)

/-- A value may be left out, and its colon too. -/
theorem value (h : IsSafeFor ts steps) (stops : List Token) (block items : Bool)
    {next : Nat → Reader α} (hnext : ∀ id, Keeps ts holds (next id)) :
    Keeps ts holds (do
      if ← accept .value then
        if ← sees stops then
          let id ← empty
          next id
        else
          let id ← Reader.node block items steps
          next id
      else
        let id ← empty
        next id) := by
  refine .bind (accept_safe _) ?_
  intro seen _
  exact .ite (h.part stops block items hnext) (.bind empty_safe fun id _ => hnext id)

/-- A comma stands before every part but the first. -/
theorem comma (first : Bool) {next : PUnit → Reader α} (hnext : ∀ u, Keeps ts holds (next u)) :
    Keeps ts holds (if !first then expect .comma >>= next else next ()) :=
  .ite (.bind (expect_safe _) fun u _ => hnext u) (hnext ())

/-- The items of a block list, one more at a time. -/
theorem blockItems_succ (h : IsSafeFor ts steps) (done : List Nat) :
    IsSafe ts (Reader.blockItems done (steps + 1)) := by
  rw [Reader.blockItems]
  refine .bind (accept_safe _) ?_
  intro seen _
  refine .ite (h.part _ _ _ fun id => h.blockItems (id :: done)) ?_
  exact .bind (expect_safe _) fun _ _ => .pure trivial

/-- Items that stand under a key without an indentation of their own. -/
theorem looseItems_succ (h : IsSafeFor ts steps) (done : List Nat) :
    IsSafe ts (Reader.looseItems done (steps + 1)) := by
  rw [Reader.looseItems]
  refine .bind (accept_safe _) ?_
  intro seen _
  exact .ite (h.part _ _ _ fun id => h.looseItems (id :: done)) (.pure trivial)

/-- The entries of a block map, one more at a time. A key or a value may be left out. -/
theorem blockEntries_succ (h : IsSafeFor ts steps) (done : List (Nat × Nat)) :
    IsSafe ts (Reader.blockEntries done (steps + 1)) := by
  rw [Reader.blockEntries]
  refine .bind (accept_safe _) ?_
  intro seen _
  refine .ite (h.part _ _ _ fun key => h.value _ _ _ fun value => ?_) ?_
  · exact h.blockEntries ((key, value) :: done)
  · exact .bind (expect_safe _) fun _ _ => .pure trivial

/-- The items of a list in brackets. An item with a colon is a map with one entry. -/
theorem flowItems_succ (h : IsSafeFor ts steps) (first : Bool) (done : List Nat) :
    IsSafe ts (Reader.flowItems first done (steps + 1)) := by
  rw [Reader.flowItems]
  refine .bind (accept_safe _) ?_
  intro closed _
  refine .ite (.pure trivial) (comma first fun _ => ?_)
  refine .bind (sees_safe _) ?_
  intro seen _
  refine .ite ?_ ?_
  · refine .bind (collection_safe (.inl (by decide)) ?_) fun id _ => h.flowItems false (id :: done)
    refine .bind pass_safe fun _ _ => ?_
    exact h.part _ _ _ fun key => h.value _ _ _ fun value => .pure trivial
  · refine .bind (accept_safe _) ?_
    intro closed _
    refine .ite (.pure trivial) ?_
    exact .bind (h.node _ _) fun id _ => h.flowItems false (id :: done)

/-- The entries of a map in braces. -/
theorem flowEntries_succ (h : IsSafeFor ts steps) (first : Bool) (done : List (Nat × Nat)) :
    IsSafe ts (Reader.flowEntries first done (steps + 1)) := by
  rw [Reader.flowEntries]
  refine .bind (accept_safe _) ?_
  intro closed _
  refine .ite (.pure trivial) (comma first fun _ => ?_)
  refine .bind (accept_safe _) ?_
  intro seen _
  refine .ite ?_ ?_
  · refine h.part _ _ _ fun key => h.value _ _ _ fun value => ?_
    exact h.flowEntries false ((key, value) :: done)
  · refine .bind (accept_safe _) ?_
    intro closed _
    refine .ite (.pure trivial) (.bind (h.node _ _) fun key _ => .bind empty_safe fun value _ => ?_)
    exact h.flowEntries false ((key, value) :: done)

/-- A scalar or a collection, after its properties. -/
theorem node_succ (h : IsSafeFor ts steps) (block items : Bool) :
    IsSafe ts (Reader.node block items (steps + 1)) := by
  intro r hr
  rw [Reader.node]
  refine .bind (peek_at hr) ?_
  rintro first _ - - ⟨rfl, -⟩
  split
  · exact Keeps.bind pass_safe (fun _ _ => named_safe _) _ hr
  refine .bind (properties_at hr) ?_
  rintro ⟨name, written⟩ r₁ hr₁ - hwritten
  refine .bind (fullTag_at hr₁ written) ?_
  rintro tag _ - - ⟨rfl, hfull⟩
  refine .bind (peek_at hr₁) ?_
  rintro t _ - - ⟨rfl, rest, htokens⟩
  rw [htokens] at hwritten
  have ht : t ∈ ts.tokens := hr₁.tokens.mem (by rw [htokens]; exact List.mem_cons_self)
  have htag : IsTagOf ts.tokens tag t := by
    apply hfull
    intro text htext
    obtain ⟨label, hplace⟩ := hwritten text htext
    refine ⟨label, List.IsInfix.trans ?_ hplace.isInfix⟩
    exact ⟨[], rest, by simp⟩
  have hsequence (hbegins : t.BeginsCollection) :
      (collectionTag tag .sequence).IsGiven ts.tokens :=
    collectionTag_isGiven htag hbegins (by decide)
  have hmapping (hbegins : t.BeginsCollection) : (collectionTag tag .mapping).IsGiven ts.tokens :=
    collectionTag_isGiven htag hbegins (by decide)
  refine (?_ : IsSafe ts _) _ hr₁
  split
  · next codes plain =>
    refine .bind pass_safe fun _ _ => labelled_safe name ?_
    exact scalarTag_isWritten htag rfl (.inr ht)
  · refine collection_safe (hsequence (by decide)) (.bind pass_safe fun _ _ => ?_)
    exact .bind (h.flowItems true []) fun _ _ => .pure trivial
  · refine collection_safe (hmapping (by decide)) (.bind pass_safe fun _ _ => ?_)
    exact .bind (h.flowEntries true []) fun _ _ => .pure trivial
  · next hother _ _ =>
    have hbegins {p : Bool} {u : Token} (hu : u.BeginsCollection) (hboth : (p && t == u) = true) :
        t.BeginsCollection := by
      rw [eq_of_beq (Bool.and_eq_true_iff.1 hboth).2]
      exact hu
    split
    · next hitem =>
      refine collection_safe (hsequence (hbegins (by decide) hitem)) ?_
      exact .bind (h.looseItems []) fun _ _ => .pure trivial
    split
    · next hblock =>
      refine collection_safe (hsequence (hbegins (by decide) hblock)) ?_
      exact .bind pass_safe fun _ _ => .bind (h.blockItems []) fun _ _ => .pure trivial
    split
    · next hblock =>
      refine collection_safe (hmapping (hbegins (by decide) hblock)) ?_
      exact .bind pass_safe fun _ _ => .bind (h.blockEntries []) fun _ _ => .pure trivial
    have hempty : t.BeginsScalar [] := by
      cases t with
      | scalar codes plain => exact (hother codes plain rfl).elim
      | _ => rfl
    refine .ite (labelled_safe name ?_) .malformed
    exact scalarTag_isWritten htag hempty (.inl rfl)

end IsSafeFor

/-- All readers of nodes and parts keep a stream, by induction on the number of steps. -/
theorem isSafeFor (ts : TokenStream) (steps : Nat) : IsSafeFor ts steps := by
  induction steps with
  | zero =>
    exact ⟨fun _ _ => .malformed, fun _ => .malformed, fun _ => .malformed, fun _ => .malformed,
      fun _ _ => .malformed, fun _ _ => .malformed⟩
  | succ steps ih =>
    exact ⟨ih.node_succ, ih.blockItems_succ, ih.looseItems_succ, ih.blockEntries_succ,
      ih.flowItems_succ, ih.flowEntries_succ⟩

/-! ## Documents -/

/-- The handles of a document are those of its directives and those that always hold. -/
theorem directives_keeps (version : Bool) (declared : List (String × String)) (steps : Nat)
    (hdeclared : ∀ h ∈ declared, IsHandle ts.tokens h.1 h.2) :
    Keeps ts (fun handles => ∀ h ∈ handles, IsHandle ts.tokens h.1 h.2)
      (directives version declared steps) := by
  induction steps generalizing version declared with
  | zero => exact .malformed
  | succ steps ih =>
    rw [directives]
    refine .bind peek_keeps ?_
    intro t ht
    split
    · refine .bind pass_safe fun _ _ => ?_
      exact .ite .malformed (ih true declared hdeclared)
    · next handle lead =>
      refine .bind pass_safe fun _ _ => ?_
      refine .ite .malformed (ih version _ ?_)
      intro h hh
      rcases List.mem_cons.1 hh with rfl | hh
      · exact .inr ht
      · exact hdeclared h hh
    · exact .bind pass_safe fun _ _ => ih version declared hdeclared
    · refine .pure ?_
      intro h hh
      rcases List.mem_append.1 hh with hh | hh
      · exact hdeclared h hh
      · exact .inl hh

/-- Ends of documents may be repeated. -/
theorem passEnds_safe (steps : Nat) : IsSafe ts (passEnds steps) := by
  induction steps with
  | zero => exact .malformed
  | succ steps ih =>
    rw [passEnds]
    exact .bind (accept_safe _) fun _ _ => .ite ih (.pure trivial)

/-- A reading may get the handles of a document. -/
theorem setHandles_safe {handles : List (String × String)}
    (hhandles : ∀ h ∈ handles, IsHandle ts.tokens h.1 h.2) :
    IsSafe ts (modify fun r => { r with handles := handles }) :=
  .modify (fun _ hr => { hr with handles := hhandles }) fun _ => rfl

/-- A reader whose result does not matter keeps a stream. -/
theorem discard_safe {α : Type} {m : Reader α} (h : IsSafe ts m) : IsSafe ts (discard m) := by
  have heq : discard m = m >>= fun _ => pure () := by
    rw [bind_pure_comp]
    exact congrFun (congrFun (LawfulFunctor.map_const (f := Reader)) ()) m
  rw [heq]
  exact .bind h fun _ _ => .pure trivial

/-- A document, with its directives and its end, and with a root that may be left out. -/
theorem document_safe (steps : Nat) : IsSafe ts (document steps) := by
  have hnode := (isSafeFor ts steps).node true false
  have hdirectives : Keeps ts _ (directives false [] steps) := directives_keeps false [] steps nofun
  unfold document
  refine .bind peek_keeps ?_
  intro t _
  extract_lets finish
  have hfinish : ∀ root, IsSafe ts (finish root) := by
    intro root
    refine .bind (passEnds_safe steps) fun _ _ => .bind (accept_safe _) fun ended _ => ?_
    refine .ite (.bind (discard_safe hdirectives.safe) fun _ _ => ?_) (.pure trivial)
    exact .bind (.malformed : IsSafe ts (throw .malformed : Reader PUnit)) fun _ _ => .pure trivial
  have hleftOut : IsSafe ts (do finish (← empty)) := .bind empty_safe fun root _ => hfinish root
  split
  · exact .pure trivial
  case h_2 | h_3 =>
    refine .bind hdirectives fun handles hhandles => ?_
    refine .bind (setHandles_safe hhandles) fun _ _ => .bind (expect_safe _) fun _ _ => ?_
    refine .bind peek_keeps ?_
    intro t _
    split
    · exact hleftOut
    · exact hleftOut
    · exact hleftOut
    · exact hleftOut
    · exact .bind hnode fun root _ => hfinish root
  · refine .bind (setHandles_safe ?_) fun _ _ => .bind hnode fun root _ => hfinish root
    exact fun _ h => .inl h

end Reader

/-- The nodes of a token stream are made of its tokens. Reading them fails with a value that cannot
be read only if that is what ails the stream. -/
theorem Graph.ofTokens_meets (ts : TokenStream) :
    Meets (fun fault => fault = .impossibleValue → ts.fault = .impossibleValue)
      (fun out => ∀ node ∈ out.1, node.IsWritten ts.tokens) (Graph.ofTokens ts) := by
  have hbegin : Reading.IsOf ts ⟨ts, #[], [], []⟩ := by
    refine ⟨List.suffix_rfl, rfl, ?_, nofun⟩
    intro node hnode
    exact absurd hnode (Array.not_mem_empty node)
  have hdocument := Reader.document_safe (2 * ts.tokens.length + 4) _ hbegin
  unfold ofTokens
  split
  · next root r h => exact (hdocument.of_ok h).1.nodes
  · next fault h => exact hdocument.of_error h

end ClusterPlan.Yaml
