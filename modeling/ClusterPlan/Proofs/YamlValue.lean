import ClusterPlan.Document.Yaml.Value
import ClusterPlan.Proofs.YamlGraph
import ClusterPlan.Proofs.YamlStream
import Mathlib.Data.Fintype.Pigeonhole
import Mathlib.Logic.Relation

/-!
# Values that YAML cannot hold

Reading YAML fails with a value that cannot be read for several reasons (`HasImpossibleValue`): a
number with too many digits, an escape for no code point, a scalar that cannot be of its kind, such
as a date that does not exist, a map that is asked to be a moment, or default keys that lead around
in a circle. The first two show while the text is taken apart, the others when the graph is
evaluated (`Graph.HasNoValue`).

Merging changes the graph before that. It leaves the scalars as they are and the maps maps
(`Graph.Revises`), and a map gets no parts but those that lie in it at some depth. So the nodes are
still made of tokens, and a node that leads to itself lies in itself in the graph of the text.
-/

namespace ClusterPlan.Yaml

/-! ## What cannot be evaluated -/

/-- A scalar of a token stream cannot be of the kind that it has by its form or that the tag before
it asks for. A map whose value is that of its default key counts as a scalar, too, and its own tag
stands before the map. -/
def HasImpossibleScalar (tokens : List Token) : Prop :=
  ∃ tag codes, WritesScalar tokens codes ∧ (tag.IsGiven tokens ∨ tag.IsAsked tokens codes) ∧
    readScalar tag codes = .error .impossibleValue

/-- A kind is that of a collection, of a text or of a scalar of a token stream. -/
def Tag.Occurs (tokens : List Token) (tag : Tag) : Prop :=
  tag.IsGiven tokens ∨ ∃ codes, WritesScalar tokens codes ∧ tag.IsAsked tokens codes

/-- The items of a list or the values of a map. -/
def Node.parts (node : Node) : List Nat :=
  match node.content with
  | .scalar _ => []
  | .sequence items => items
  | .mapping entries => entries.map Prod.snd

namespace Graph

/-- A node is an item of a list or a value of a map. -/
def Holds (g : Graph) (outer inner : Nat) : Prop :=
  ∃ node, g[outer]? = some node ∧ inner ∈ node.parts

/-- A node lies in another one, at whatever depth. -/
def LiesIn (g : Graph) (inner outer : Nat) : Prop := Relation.TransGen g.Holds outer inner

/-- The graph of a token stream cannot be evaluated. -/
inductive HasNoValue (tokens : List Token) (g : Graph) : Prop where
  /-- A scalar cannot be of its kind. -/
  | scalar (h : HasImpossibleScalar tokens)
  /-- A map is asked to be a moment, and a moment is not looked for under a default key. -/
  | moment (hmoment : Tag.moment.IsGiven tokens) (hdefault : Tag.default.Occurs tokens)
  /-- A node lies in itself, and a default key leads there. -/
  | circle (hdefault : Tag.default.Occurs tokens) {id : Nat} (hcircle : g.LiesIn id id)

end Graph

/-! ## Merged graphs -/

namespace Graph

/-- A graph stems from that of a token stream: all nodes are made of tokens, and what a collection
holds lies in it. -/
structure StemsFrom (tokens : List Token) (g origin : Graph) : Prop where
  nodes : ∀ node ∈ g, node.IsWritten tokens
  parts : ∀ outer inner, g.Holds outer inner → origin.LiesIn inner outer

/-- A node is a map. -/
def IsMap (g : Graph) (id : Nat) : Prop := ∃ tag entries, g[id]? = some ⟨tag, .mapping entries⟩

/-- A graph stems from that of a token stream, and the maps of an earlier graph still are maps in
it. -/
structure Revises (tokens : List Token) (origin g g' : Graph) : Prop where
  stems : g'.StemsFrom tokens origin
  isMap : ∀ id, g.IsMap id → g'.IsMap id

/-- Entries whose values lie in a map. -/
def LieIn (origin : Graph) (entries : List (Nat × Nat)) (id : Nat) : Prop :=
  ∀ entry ∈ entries, origin.LiesIn entry.2 id

variable {tokens : List Token} {origin g g' g'' : Graph} {id : Nat}

theorem LiesIn.trans {inner middle outer : Nat} (h : g.LiesIn inner middle)
    (h' : g.LiesIn middle outer) : g.LiesIn inner outer :=
  Relation.TransGen.trans h' h

/-- The graph of a token stream stems from itself. -/
theorem StemsFrom.refl (hg : ∀ node ∈ g, node.IsWritten tokens) : g.StemsFrom tokens g :=
  ⟨hg, fun _ _ h => .single h⟩

/-- What stands in a map lies in it. -/
theorem StemsFrom.entries (hg : g.StemsFrom tokens origin) (id : Nat) :
    origin.LieIn (g.entries id) id := by
  rintro ⟨key, value⟩ hentry
  unfold Graph.entries at hentry
  split at hentry
  · next hid => exact hg.parts id value ⟨_, hid, List.mem_map_of_mem hentry⟩
  · cases hentry

theorem lieIn_nil : origin.LieIn [] id := nofun

theorem LieIn.append {entries more : List (Nat × Nat)} (h : origin.LieIn entries id)
    (hmore : origin.LieIn more id) : origin.LieIn (entries ++ more) id := by
  intro entry hentry
  rcases List.mem_append.1 hentry with hold | hnew
  · exact h entry hold
  · exact hmore entry hnew

/-- What lies in a map lies in whatever the map lies in. -/
theorem LieIn.within {entries : List (Nat × Nat)} {inner : Nat} (h : origin.LieIn entries inner)
    (hinner : origin.LiesIn inner id) : origin.LieIn entries id :=
  fun entry hentry => (h entry hentry).trans hinner

theorem Revises.refl (hg : g.StemsFrom tokens origin) : Revises tokens origin g g :=
  ⟨hg, fun _ h => h⟩

theorem Revises.trans (h : Revises tokens origin g g') (h' : Revises tokens origin g' g'') :
    Revises tokens origin g g'' :=
  ⟨h'.stems, fun id hid => h'.isMap id (h.isMap id hid)⟩

/-- A change of one node that keeps maps keeps them all. -/
theorem isMap_modify {f : Node → Node}
    (hf : ∀ tag entries, ∃ tag' entries', f ⟨tag, .mapping entries⟩ = ⟨tag', .mapping entries'⟩)
    {other : Nat} (hother : g.IsMap other) : IsMap (g.modify id f) other := by
  obtain ⟨tag, entries, hnode⟩ := hother
  unfold IsMap
  rw [Array.getElem?_modify, hnode]
  split
  · obtain ⟨tag', entries', hchanged⟩ := hf tag entries
    exact ⟨tag', entries', congrArg some hchanged⟩
  · exact ⟨tag, entries, rfl⟩

/-- In a graph in which one node has been changed a node holds what it held before, unless it is the
changed one. -/
theorem holds_modify {f : Node → Node} {outer inner : Nat}
    (h : Holds (g.modify id f) outer inner) : g.Holds outer inner ∨
      (outer = id ∧ ∃ old, g[id]? = some old ∧ inner ∈ (f old).parts) := by
  obtain ⟨node, hnode, hinner⟩ := h
  rw [Array.getElem?_modify] at hnode
  split at hnode
  · next heq =>
    obtain ⟨old, hold, rfl⟩ := Option.map_eq_some_iff.1 hnode
    exact .inr ⟨heq.symm, old, heq ▸ hold, hinner⟩
  · exact .inl ⟨node, hnode, hinner⟩

/-- Only the kind of a scalar has to fit its content, so a map may get any entries that lie in
it. -/
theorem revises_setEntries (hg : g.StemsFrom tokens origin) (hid : g.IsMap id)
    {entries : List (Nat × Nat)} (hentries : origin.LieIn entries id) :
    Revises tokens origin g (g.setEntries id entries) := by
  refine ⟨⟨?_, ?_⟩, fun _ => isMap_modify fun tag _ => ⟨tag, entries, rfl⟩⟩
  · intro node hnode
    rcases mem_modify hnode with hold | ⟨old, hold, rfl⟩
    · exact hg.nodes node hold
    · obtain ⟨tag, before, hmap⟩ := hid
      rw [hmap] at hold
      cases hold
      exact .collection ((hg.nodes _ (Array.mem_of_getElem? hmap)).isGiven trivial) trivial
  · intro outer inner hholds
    rcases holds_modify hholds with hold | ⟨rfl, old, -, hinner⟩
    · exact hg.parts outer inner hold
    · obtain ⟨entry, hentry, rfl⟩ := List.mem_map.1 hinner
      exact hentries entry hentry

/-- A default key may become a text, which fits any content. -/
theorem revises_setText (hg : g.StemsFrom tokens origin) (id : Nat) :
    Revises tokens origin g (g.modify id fun node => { node with tag := .text }) := by
  refine ⟨⟨?_, ?_⟩, fun _ => isMap_modify fun _ entries => ⟨.text, entries, rfl⟩⟩
  · intro node hnode
    rcases mem_modify hnode with hold | ⟨old, hold, rfl⟩
    · exact hg.nodes node hold
    · exact ⟨(hg.nodes old (Array.mem_of_getElem? hold)).codes, .inl (.inl List.mem_cons_self)⟩
  · intro outer inner hholds
    rcases holds_modify hholds with hold | ⟨rfl, old, hold, hinner⟩
    · exact hg.parts outer inner hold
    · exact hg.parts outer inner ⟨old, hold, hinner⟩

/-! ## Default keys -/

/-- The node to which a number of default keys lead from a node. -/
def follow? (g : Graph) : Nat → Nat → Option Nat
  | 0, id => some id
  | steps + 1, id => (g.defaultValue? id).bind (g.follow? steps)

/-- To follow default keys for some steps and then for more steps is to follow them for all of
these. -/
theorem follow?_add (steps more id : Nat) :
    g.follow? (steps + more) id = (g.follow? steps id).bind (g.follow? more) := by
  induction steps generalizing id with
  | zero => rw [Nat.zero_add]; rfl
  | succ steps ih =>
    rw [Nat.succ_add]
    simp only [follow?]
    cases g.defaultValue? id with
    | none => rfl
    | some value => exact ih value

/-- A default value stands in an entry with a default key. -/
theorem mem_entries_of_defaultValue? {value : Nat} (h : g.defaultValue? id = some value) :
    ∃ key, (key, value) ∈ g.entries id ∧ g.tag key = .default := by
  obtain ⟨⟨key, _⟩, hfind, rfl⟩ := Option.map_eq_some_iff.1 h
  have htag := List.find?_some hfind
  exact ⟨key, List.mem_of_find?_eq_some hfind, eq_of_beq htag⟩

/-- A scalar has no default key. -/
theorem exists_entries_of_defaultValue? {value : Nat} (h : g.defaultValue? id = some value) :
    ∃ tag entries, g[id]? = some ⟨tag, .mapping entries⟩ := by
  obtain ⟨key, hmem, -⟩ := mem_entries_of_defaultValue? h
  unfold Graph.entries at hmem
  split at hmem
  · next tag entries hid => exact ⟨tag, entries, hid⟩
  · cases hmem

/-- A default key of a graph is written in the token stream. -/
theorem StemsFrom.default_occurs (hg : g.StemsFrom tokens origin) {value : Nat}
    (h : g.defaultValue? id = some value) : Tag.default.Occurs tokens := by
  obtain ⟨key, -, htag⟩ := mem_entries_of_defaultValue? h
  unfold Graph.tag at htag
  cases hnode : g[key]? with
  | none =>
    rw [hnode] at htag
    cases htag
  | some node =>
    rw [hnode] at htag
    have hwritten := hg.nodes node (Array.mem_of_getElem? hnode)
    rcases hwritten.tag with hgiven | ⟨codes, hcodes, hasked⟩
    · exact .inl ((show node.tag = .default from htag) ▸ hgiven)
    · exact .inr ⟨codes, hwritten.codes codes hcodes, (show node.tag = .default from htag) ▸ hasked⟩

/-- The kind of a map with a default key is given by the tag before it or by its form. -/
theorem StemsFrom.isGiven_of_defaultValue? (hg : g.StemsFrom tokens origin) {value : Nat}
    (h : g.defaultValue? id = some value) : (g.tag id).IsGiven tokens := by
  obtain ⟨tag, entries, hnode⟩ := exists_entries_of_defaultValue? h
  rw [Graph.tag, hnode]
  exact (hg.nodes _ (Array.mem_of_getElem? hnode)).isGiven trivial

/-- Default keys lead to what lies in a node. -/
theorem StemsFrom.liesIn_of_follow? (hg : g.StemsFrom tokens origin) (steps : Nat)
    {first last : Nat} (h : g.follow? (steps + 1) first = some last) : origin.LiesIn last first := by
  induction steps generalizing first with
  | zero =>
    obtain ⟨value, hvalue, heq⟩ := Option.bind_eq_some_iff.1 h
    cases heq
    obtain ⟨key, hmem, -⟩ := mem_entries_of_defaultValue? hvalue
    exact hg.entries first _ hmem
  | succ steps ih =>
    obtain ⟨value, hvalue, hrest⟩ := Option.bind_eq_some_iff.1 h
    obtain ⟨key, hmem, -⟩ := mem_entries_of_defaultValue? hvalue
    exact (ih hrest).trans (hg.entries first _ hmem)

/-- More default keys than there are nodes lead to a node twice, and then it lies in itself. -/
theorem StemsFrom.liesIn_self_of_follow? (hg : g.StemsFrom tokens origin)
    (h : (g.follow? (g.size + 1) id).isSome) : ∃ id, origin.LiesIn id id := by
  have hpass : ∀ steps : Fin (g.size + 1), ∃ passed : Fin g.size,
      g.follow? steps id = some passed.1 := by
    intro steps
    obtain ⟨more, hmore⟩ := Nat.exists_eq_add_of_lt steps.2
    rw [hmore, Nat.add_assoc, follow?_add] at h
    obtain ⟨last, hlast⟩ := Option.isSome_iff_exists.1 h
    obtain ⟨passed, hpassed, hrest⟩ := Option.bind_eq_some_iff.1 hlast
    obtain ⟨value, hvalue, -⟩ := Option.bind_eq_some_iff.1 hrest
    obtain ⟨tag, entries, hid⟩ := exists_entries_of_defaultValue? hvalue
    exact ⟨⟨passed, (Array.getElem?_eq_some_iff.1 hid).1⟩, hpassed⟩
  choose passed hpassed using hpass
  obtain ⟨i, j, hne, heq⟩ := Fintype.exists_ne_map_eq_of_card_lt passed (by simp)
  wlog hlt : i < j generalizing i j
  · exact this j i hne.symm heq.symm (lt_of_le_of_ne (not_lt.1 hlt) hne.symm)
  obtain ⟨more, hmore⟩ := Nat.exists_eq_add_of_lt hlt
  have hround := hpassed j
  rw [hmore, Nat.add_assoc, follow?_add, hpassed i, ← heq] at hround
  exact ⟨_, hg.liesIn_of_follow? more hround⟩

end Graph

variable {tokens : List Token}

/-! ## Merging -/

/-- Merging gives maps other entries, which lie in them, and turns default keys into texts. -/
theorem flatten_meets {origin : Graph} (steps : Nat) {id : Nat} (position : Nat)
    {merged : List (Nat × Nat)} {g : Graph} (hg : g.StemsFrom tokens origin) (hid : g.IsMap id)
    (hmerged : origin.LieIn merged id) :
    Meets (· ≠ .impossibleValue) (Graph.Revises tokens origin g)
      (flatten steps id position merged g) := by
  induction steps generalizing id position merged g with
  | zero => exact .ok (.refl hg)
  | succ steps ih =>
    unfold flatten
    split
    · exact .ok (Graph.revises_setEntries hg hid (hmerged.append (hg.entries id)))
    · next key value hentry =>
      have hvalue : origin.LiesIn value id := hg.entries id _ (List.mem_of_getElem? hentry)
      split
      · -- a merge key
        have hrest : origin.LieIn ((g.entries id).eraseIdx position) id :=
          fun entry h => hg.entries id entry (List.mem_of_mem_eraseIdx h)
        have herased := Graph.revises_setEntries hg hid hrest
        -- what has to be merged is merged by itself first
        have hmerge : ∀ added g', origin.LieIn added id → Graph.Revises tokens origin g g' →
            Meets (· ≠ .impossibleValue) (Graph.Revises tokens origin g)
              (flatten steps id position (merged ++ added) g') := by
          intro added g' hadded hg'
          have hflat := ih position hg'.stems (hg'.isMap id hid) (hmerged.append hadded)
          exact hflat.weaken fun _ h => hg'.trans h
        dsimp only
        split
        · next tag entries hmap =>
          refine Meets.bind (ih 0 herased.stems ⟨tag, entries, hmap⟩ Graph.lieIn_nil) ?_
          intro g' hg'
          exact hmerge _ g' ((hg'.stems.entries value).within hvalue) (herased.trans hg')
        · next tag items hlist =>
          refine Meets.bind (Meets.foldlM
            (fun r => Graph.Revises tokens origin g r.1 ∧ origin.LieIn r.2 id) ?_
            ⟨herased, Graph.lieIn_nil⟩) ?_
          · rintro ⟨g', added⟩ item hmem ⟨hg', hadded⟩
            have hitem : origin.LiesIn item id :=
              .trans (herased.stems.parts value item ⟨_, hlist, hmem⟩) hvalue
            dsimp only
            split
            · next tag entries hmap =>
              refine Meets.bind (ih 0 hg'.stems ⟨tag, entries, hmap⟩ Graph.lieIn_nil) ?_
              intro g'' hg''
              have hnew := (hg''.stems.entries item).within hitem
              exact .ok ⟨hg'.trans hg'', hnew.append hadded⟩
            · exact .error nofun
          · rintro ⟨g', added⟩ ⟨hg', hadded⟩
            exact hmerge _ g' hadded hg'
        · exact .error nofun
      · -- a default key
        have htext := Graph.revises_setText hg key
        have hflat := ih (position + 1) htext.stems (htext.isMap id hid) hmerged
        exact hflat.weaken fun _ h => htext.trans h
      · exact ih (position + 1) hg hid hmerged

/-! ## Evaluation -/

namespace Evaluation

/-- The code points of a node are those of a scalar, and they fit the kind of the node unless that
has nothing to do with them. If it is a map, it has a default key. -/
structure HasCodes (tokens : List Token) (g : Graph) (id : Nat) (codes : List Nat) : Prop where
  written : WritesScalar tokens codes
  kind : (g.tag id).IsGiven tokens ∨ (g.tag id).IsAsked tokens codes
  default : g.isMapping id = true → ∃ value, g.defaultValue? id = some value

/-- Without code points for a node default keys lead on and on. -/
theorem codes_meets {origin : Graph} (steps : Nat) {g : Graph} (hg : g.StemsFrom tokens origin)
    (id : Nat) :
    Meets (fun fault => fault = .impossibleValue → (g.follow? steps id).isSome)
      (HasCodes tokens g id) (codes g steps id) := by
  induction steps generalizing id with
  | zero => exact .error fun _ => rfl
  | succ steps ih =>
    unfold Evaluation.codes
    split
    · next tag codes hnode =>
      have hwritten := hg.nodes _ (Array.mem_of_getElem? hnode)
      refine .ok ⟨hwritten.codes codes rfl, ?_, ?_⟩
      · rw [Graph.tag, hnode]
        rcases hwritten.tag with htag | ⟨codes', hcodes, htag⟩
        · exact .inl htag
        · cases hcodes
          exact .inr htag
      · intro hmapping
        rw [Graph.isMapping, hnode] at hmapping
        cases hmapping
    · next value hvalue hscalar =>
      refine (ih value).mono ?_ ?_
      · intro fault hlong hfault
        rw [Graph.follow?, hvalue]
        exact hlong hfault
      · intro codes hcodes
        exact ⟨hcodes.written, .inl (hg.isGiven_of_defaultValue? hvalue), fun _ => ⟨value, hvalue⟩⟩
    · exact .error nofun

variable {origin : Graph} {e : Evaluation}

/-- Evaluation keeps a graph that stems from that of the tokens, and fails with a value that cannot
be read only if that graph cannot be evaluated. -/
abbrev Reads {α : Type} (tokens : List Token) (origin : Graph) (state : α → Evaluation)
    (outcome : Except Fault α) : Prop :=
  Meets (fun fault => fault = .impossibleValue → origin.HasNoValue tokens)
    (fun a => (state a).graph.StemsFrom tokens origin) outcome

/-- There are more steps than nodes, so default keys that lead on and on lead around in a circle. -/
theorem codes_reads {g : Graph} (hg : g.StemsFrom tokens origin) (id : Nat) :
    Meets (fun fault => fault = .impossibleValue → origin.HasNoValue tokens)
      (HasCodes tokens g id) (codes g (g.size + 1) id) := by
  refine (codes_meets (g.size + 1) hg id).mono ?_ fun _ h => h
  intro fault hlong hfault
  have hround := hlong hfault
  obtain ⟨inner, hcircle⟩ := hg.liesIn_self_of_follow? hround
  obtain ⟨last, hlast⟩ := Option.isSome_iff_exists.1 hround
  obtain ⟨value, hvalue, -⟩ := Option.bind_eq_some_iff.1 hlast
  exact .circle (hg.default_occurs hvalue) hcircle

/-- A visit of a node fails with a value that cannot be read for each of the three reasons: a scalar
is not of its kind, a map is asked to be a moment, or the default keys do not come to an end. -/
theorem visit_reads (id : Nat) (he : e.graph.StemsFrom tokens origin) :
    Reads tokens origin (·) (e.visit id) := by
  unfold visit
  split
  · exact .ok he
  · dsimp only
    split
    · exact .ok he
    · exact .ok he
    · exact .ok he
    · exact .ok he
    · exact .ok he
    · refine Meets.bind (codes_reads he id) ?_
      intro codes hcodes
      dsimp only
      split
      · next hboth =>
        obtain ⟨htag, hmapping⟩ := Bool.and_eq_true_iff.1 hboth
        have hmoment : e.graph.tag id = .moment := of_decide_eq_true htag
        obtain ⟨value, hvalue⟩ := hcodes.default hmapping
        have hgiven := he.isGiven_of_defaultValue? hvalue
        rw [hmoment] at hgiven
        exact .error fun _ => .moment hgiven (he.default_occurs hvalue)
      · show Reads tokens origin (·) (readScalar (e.graph.tag id) codes >>= _)
        cases hread : readScalar (e.graph.tag id) codes with
        | ok s => exact .ok he
        | error fault =>
          refine .error ?_
          rintro rfl
          exact .scalar ⟨_, codes, hcodes.written, hcodes.kind, hread⟩

/-- So does a visit of a key, which moreover is malformed if it is no scalar. -/
theorem visitKey_reads (id : Nat) (he : e.graph.StemsFrom tokens origin) :
    Reads tokens origin Prod.snd (e.visitKey id) := by
  unfold visitKey
  refine Meets.bind (visit_reads id he) ?_
  intro e' he'
  split
  · exact .ok he'
  · exact .error nofun

/-- The entries of a map are visited after the merges. -/
theorem visitEntries_reads (id : Nat) (he : e.graph.StemsFrom tokens origin) :
    Reads tokens origin Prod.snd (e.visitEntries id) := by
  unfold visitEntries
  split
  · next tag entries hid =>
    dsimp only
    refine Meets.bind (flatten_meets _ 0 he ⟨tag, entries, hid⟩ Graph.lieIn_nil).imp_of_ne ?_
    intro g hg
    refine Meets.bind (Meets.foldlM (fun r => r.2.graph.StemsFrom tokens origin) ?_ hg.stems) ?_
    · rintro ⟨found, e'⟩ ⟨key, value⟩ - he'
      refine Meets.bind (visitKey_reads key he') ?_
      rintro ⟨s, e''⟩ he''
      refine Meets.bind (visit_reads value he'') ?_
      intro e''' he'''
      exact .ok he'''
    · rintro ⟨found, e'⟩ he'
      exact .ok he'
  · exact .error nofun

/-- A part of an ordered map that is no map with one entry is malformed. -/
theorem singleEntry_meets (e : Evaluation) (id : Nat) :
    Meets (· ≠ .impossibleValue) (fun _ => True) (e.singleEntry id) := by
  unfold singleEntry
  split
  · exact .ok trivial
  · exact .error nofun

/-- The parts of a collection are visited one after the other. -/
theorem visitParts_reads (id : Nat) (he : e.graph.StemsFrom tokens origin) :
    Reads tokens origin (·) (e.visitParts id) := by
  unfold visitParts
  dsimp only
  split
  · refine Meets.bind (visitEntries_reads id he) ?_
    rintro ⟨entries, e'⟩ he'
    exact .ok he'
  · refine Meets.bind (visitEntries_reads id he) ?_
    rintro ⟨entries, e'⟩ he'
    exact .ok he'
  · split
    · refine Meets.bind (Meets.foldlM (·.graph.StemsFrom tokens origin) ?_ he) ?_
      · intro e' item _ he'
        exact visit_reads item he'
      · intro e' he'
        exact .ok he'
    · exact .error nofun
  · split
    · refine Meets.bind (Meets.foldlM (fun r => r.2.graph.StemsFrom tokens origin) ?_ he) ?_
      · rintro ⟨found, e'⟩ item - he'
        refine Meets.bind (singleEntry_meets e' item).imp_of_ne ?_
        rintro ⟨key, value⟩ -
        refine Meets.bind (visit_reads key he') ?_
        intro e'' he''
        refine Meets.bind (visit_reads value he'') ?_
        intro e''' he'''
        exact .ok he'''
      · rintro ⟨found, e'⟩ he'
        exact .ok he'
    · exact .error nofun
  · exact .ok he

/-- The whole graph is visited, by induction on the number of rounds. -/
theorem run_reads (steps : Nat) (he : e.graph.StemsFrom tokens origin) :
    Reads tokens origin (·) (e.run steps) := by
  induction steps generalizing e with
  | zero => exact .ok he
  | succ steps ih =>
    unfold run
    split
    · exact .ok he
    · refine Meets.bind (Meets.foldlM (·.graph.StemsFrom tokens origin) ?_ he) ?_
      · intro e' id _ he'
        exact visitParts_reads id he'
      · intro e' he'
        exact ih he'

end Evaluation

/-! ## Documents -/

/-- A graph of tokens has a document, or it is malformed, or it cannot be evaluated. -/
theorem Graph.toDocument_meets {g : Graph} (hg : ∀ node ∈ g, node.IsWritten tokens)
    (root depth : Nat) :
    Meets (fun fault => fault = .impossibleValue → g.HasNoValue tokens) (fun _ => True)
      (g.toDocument root depth) := by
  unfold Graph.toDocument
  refine Meets.bind (Evaluation.visit_reads root (Graph.StemsFrom.refl hg)) ?_
  intro e he
  refine Meets.bind (Evaluation.run_reads _ he) ?_
  intro e' _
  exact .ok trivial

/-- A YAML text has a value that cannot be read: a number with too many digits, an escape for no
code point, or one that shows when the graph of the text is evaluated. -/
def HasImpossibleValue (cs : List Char) : Prop :=
  HasRun Numeral.digitLimit cs ∨ HasWideEscape cs ∨
    ∃ g root, Graph.ofTokens (TokenStream.ofText cs) = .ok (g, root) ∧
      g.HasNoValue (TokenStream.ofText cs).tokens

/-- Reading fails with a value that cannot be read only in a text that has such a value. -/
theorem hasImpossibleValue_of_read {depth : Nat} {cs : List Char}
    (h : read depth cs = .error .impossibleValue) : HasImpossibleValue cs := by
  have hgraph := Graph.ofTokens_meets (TokenStream.ofText cs)
  unfold read at h
  cases hout : Graph.ofTokens (TokenStream.ofText cs) with
  | error fault =>
    rw [hout] at h
    cases h
    rcases TokenStream.ofText_fault cs (hgraph.of_error hout rfl) with hrun | hescape
    · exact .inl hrun
    · exact .inr (.inl hescape)
  | ok out =>
    obtain ⟨g, root⟩ := out
    have hdocument : ∀ root, Meets (fun fault => fault = .impossibleValue → HasImpossibleValue cs)
        (fun _ => True) (g.toDocument root depth) := by
      intro id
      refine (Graph.toDocument_meets (hgraph.of_ok hout) id depth).mono ?_ fun _ hd => hd
      exact fun _ hvalue hfault => .inr (.inr ⟨g, root, hout, hvalue hfault⟩)
    rw [hout] at h
    cases root with
    | none => cases h
    | some id => exact (hdocument id).of_error h rfl

end ClusterPlan.Yaml
