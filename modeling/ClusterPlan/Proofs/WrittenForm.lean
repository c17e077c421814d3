import ClusterPlan.Shape
import Mathlib.Data.List.Forall2

/-!
# Written forms of values

`Kind.WrittenAs` says when a document is a written form of a value: every field of a section is
there, each under its name or under its alternative name, and the members of a section may stand in
any order; a section that is left out is null. The entries of a map of texts and the items of a list
keep their order.

Reading a written form yields the value it is a form of (`Kind.read_of_writtenAs`), provided that no
name of a field is a name of another field of the same section (`Kind.WellNamed`): otherwise a
member could be found under a name that was meant for its neighbour. `Kind.write` produces a written
form (`Kind.writtenAs_write`), so reading undoes writing.
-/

namespace ClusterPlan

/-! ## Maps of texts -/

namespace TextMap

variable {τ : Type} [DecidableEq τ]

/-- A new key goes to the end. -/
theorem putEntry_of_new {key value : τ} {entries : List (τ × τ)}
    (h : key ∉ entries.map Prod.fst) : putEntry key value entries = entries ++ [(key, value)] := by
  induction entries with
  | nil => rfl
  | cons e rest ih =>
    obtain ⟨k, v⟩ := e
    rw [List.map_cons, List.mem_cons, not_or] at h
    rw [putEntry, if_neg (Ne.symm h.1), ih h.2, List.cons_append]

/-- Entries with new keys that are put into a map one after the other come to stand at its end. -/
theorem entries_foldl_put {entries : List (τ × τ)} {m : TextMap τ}
    (h : ((m.entries ++ entries).map Prod.fst).Nodup) :
    (entries.foldl (fun m (key, value) => m.put key value) m).entries = m.entries ++ entries := by
  induction entries generalizing m with
  | nil => simp
  | cons e rest ih =>
    obtain ⟨key, value⟩ := e
    have hnew : key ∉ m.entries.map Prod.fst := by
      rw [List.map_append, List.nodup_append] at h
      exact fun hmem => h.2.2 key hmem key (by simp) rfl
    have hput : (m.put key value).entries = m.entries ++ [(key, value)] := putEntry_of_new hnew
    rw [List.foldl_cons, ih (by rw [hput, List.append_assoc]; exact h), hput, List.append_assoc]
    rfl

/-- A map is the map of its entries. -/
theorem ofList_entries (m : TextMap τ) : ofList m.entries = m := by
  have hentries : (ofList m.entries).entries = m.entries :=
    entries_foldl_put (m := empty) m.distinct
  cases h : ofList m.entries with
  | mk entries distinct =>
    rw [h] at hentries
    cases m
    cases hentries
    rfl

end TextMap

/-! ## Members of a section -/

namespace Document

variable {name key : String} {d : Document} {members others : List (String × Document)}

/-- The entries of a map whose keys are texts. -/
def entriesOfRecord (members : List (String × Document)) : List (Scalar × Document) :=
  members.map fun (name, d) => (.text name, d)

theorem member?_cons :
    member? name (entriesOfRecord ((key, d) :: members)) =
      if key = name then some d else member? name (entriesOfRecord members) := rfl

theorem member?_eq_none :
    member? name (entriesOfRecord members) = none ↔ name ∉ members.map Prod.fst := by
  induction members with
  | nil => simp [entriesOfRecord, member?]
  | cons e rest ih =>
    obtain ⟨key, d⟩ := e
    rw [member?_cons, List.map_cons, List.mem_cons, not_or, ← ih]
    by_cases h : key = name
    · simp [h]
    · simp [h, Ne.symm h]

/-- With keys that are all different, every member is found under its key. -/
theorem member?_eq_some (hdistinct : (members.map Prod.fst).Nodup) (h : (name, d) ∈ members) :
    member? name (entriesOfRecord members) = some d := by
  induction members with
  | nil => cases h
  | cons e rest ih =>
    obtain ⟨key, value⟩ := e
    rw [List.map_cons, List.nodup_cons] at hdistinct
    rw [member?_cons]
    rcases List.mem_cons.1 h with heq | hrest
    · obtain ⟨rfl, rfl⟩ := Prod.mk.inj heq
      rw [if_pos rfl]
    · have hother : key ≠ name := by
        rintro rfl
        exact hdistinct.1 (List.mem_map.2 ⟨(key, d), hrest, rfl⟩)
      rw [if_neg hother, ih hdistinct.2 hrest]

/-! ## Lists -/

/-- A list whose items are written forms of the given values is read as the list of them. -/
theorem readList_eq_ok {α : Type} {read : Document → Checked α} {form : α → Document → Prop}
    (hread : ∀ a d, form a d → read d = .ok a) {as : List α} {ds : List Document}
    (h : List.Forall₂ form as ds) : (Document.list ds).readList read = .ok as := by
  have hitems : ∀ position, readItems read position ds = .ok as := by
    induction h with
    | nil => exact fun _ => rfl
    | @cons a d as ds hd _ ih =>
      intro position
      rw [readItems, hread a d hd, ih]
      rfl
  exact hitems 0

theorem readInts_eq_ok (is : List Int) :
    (Document.list (is.map fun i => .scalar (.int i))).readList readInt = .ok is := by
  have hread : ∀ (i : Int) (d : Document), d = .scalar (.int i) → d.readInt = .ok i := by
    rintro i _ rfl
    rfl
  apply readList_eq_ok hread
  rw [List.forall₂_map_right_iff, List.forall₂_same]
  intro i _
  rfl

/-- A text is read as it is, whatever it consists of. -/
theorem readText_wording (w : Wording) : (wording w).readText = .ok w := by
  cases w <;> rfl

/-- The entries of a map of texts keep their order. -/
theorem readTexts_eq_ok (m : TextMap Wording) :
    (Document.map (m.entries.map fun (key, value) => (key.toScalar, .wording value))).readTexts =
      .ok m := by
  have hentry : ∀ key value : Wording,
      readEntry (key.toScalar, .wording value) = .ok (key, value) := by
    intro key value
    have hkey : (scalar key.toScalar).readText = .ok key := readText_wording key
    rw [readEntry, hkey, readText_wording]
    rfl
  have hall : ∀ entries : List (Wording × Wording),
      Checked.all ((entries.map fun (key, value) =>
        (key.toScalar, Document.wording value)).map readEntry) = .ok entries := by
    intro entries
    induction entries with
    | nil => rfl
    | cons e rest ih =>
      rw [List.map_cons, List.map_cons, Checked.all, ih, hentry]
      rfl
  rw [readTexts, hall]
  exact congrArg Except.ok m.ofList_entries

end Document

/-! ## Names -/

/-- The names of the fields, the alternative ones included. -/
def Fields.names : Fields → List String
  | .nil => []
  | .cons name alternative _ rest => name :: alternative :: rest.names

mutual

/-- A kind whose sections are well named. -/
def Kind.WellNamed : Kind → Prop
  | .section _ _ fields => fields.WellNamed
  | .optionalSection _ fields => fields.WellNamed
  | .sections _ fields => fields.WellNamed
  | _ => True

/-- Fields of which none has a name of another one, and whose own sections are well named. -/
def Fields.WellNamed : Fields → Prop
  | .nil => True
  | .cons name alternative kind rest =>
    name ∉ rest.names ∧ alternative ∉ rest.names ∧ kind.WellNamed ∧ rest.WellNamed

end

mutual

/-- Names can be compared. -/
def Kind.decidableWellNamed : (kind : Kind) → Decidable kind.WellNamed
  | .section _ _ fields => fields.decidableWellNamed
  | .optionalSection _ fields => fields.decidableWellNamed
  | .sections _ fields => fields.decidableWellNamed
  | .text | .int | .flag | .optionalFlag | .ints | .texts => inferInstanceAs (Decidable True)

/-- Names can be compared. -/
def Fields.decidableWellNamed : (fields : Fields) → Decidable fields.WellNamed
  | .nil => inferInstanceAs (Decidable True)
  | .cons name alternative kind rest =>
    have : Decidable kind.WellNamed := kind.decidableWellNamed
    have : Decidable rest.WellNamed := rest.decidableWellNamed
    inferInstanceAs (Decidable (name ∉ rest.names ∧ alternative ∉ rest.names ∧ kind.WellNamed ∧
      rest.WellNamed))

end

instance (kind : Kind) : Decidable kind.WellNamed := kind.decidableWellNamed

/-! ## Written forms -/

/-- A section whose members have a given form once they are put in a suitable order. -/
def Document.IsRecordOf (form : List (String × Document) → Prop) (d : Document) : Prop :=
  ∃ ordered members, form ordered ∧ members.Perm ordered ∧ d = .record members

mutual

/-- The document is a written form of the value. -/
def Kind.WrittenAs : (kind : Kind) → kind.Value Wording → Document → Prop
  | .text, w, d => d = .wording w
  | .int, i, d => d = .scalar (.int i)
  | .flag, b, d => d = .scalar (.flag b)
  | .optionalFlag, none, d => d = .null
  | .optionalFlag, some b, d => d = .scalar (.flag b)
  | .ints, is, d => d = .list (is.map fun i => .scalar (.int i))
  | .texts, m, d => d = .map (m.entries.map fun (key, value) => (key.toScalar, .wording value))
  | .section _ _ fields, vs, d => d.IsRecordOf (fields.WrittenAs vs)
  | .optionalSection _ _, none, d => d = .null
  | .optionalSection _ fields, some vs, d => d.IsRecordOf (fields.WrittenAs vs)
  | .sections _ fields, vss, d =>
    ∃ ds, d = .list ds ∧ List.Forall₂ (fun vs d => d.IsRecordOf (fields.WrittenAs vs)) vss ds

/-- The members are written forms of the fields in their order, each under one of its names. -/
def Fields.WrittenAs : (fields : Fields) → fields.Values Wording → List (String × Document) → Prop
  | .nil, _, members => members = []
  | .cons name alternative kind rest, (v, vs), members =>
    ∃ key d more, members = (key, d) :: more ∧ (key = name ∨ key = alternative) ∧
      kind.WrittenAs v d ∧ rest.WrittenAs vs more

end

mutual

/-- What is written is a written form, with all names first and in order. -/
theorem Kind.writtenAs_write : (kind : Kind) → (v : kind.Value Wording) →
    kind.WrittenAs v (kind.write v)
  | .text, _ | .int, _ | .flag, _ | .optionalFlag, none | .optionalFlag, some _ => rfl
  | .ints, _ | .texts, _ | .optionalSection _ _, none => rfl
  | .section _ _ fields, vs => ⟨_, _, fields.writtenAs_write vs, .refl _, rfl⟩
  | .optionalSection _ fields, some vs => ⟨_, _, fields.writtenAs_write vs, .refl _, rfl⟩
  | .sections _ fields, _ =>
    ⟨_, rfl, List.forall₂_map_right_iff.2 <| List.forall₂_same.2 fun vs _ =>
      ⟨_, _, fields.writtenAs_write vs, .refl _, rfl⟩⟩

theorem Fields.writtenAs_write : (fields : Fields) → (vs : fields.Values Wording) →
    fields.WrittenAs vs (fields.write vs)
  | .nil, _ => rfl
  | .cons _ _ kind rest, (v, vs) =>
    ⟨_, _, _, rfl, .inl rfl, kind.writtenAs_write v, rest.writtenAs_write vs⟩

end

namespace Fields

/-- The keys of a written form are names of the fields. -/
theorem WrittenAs.mem_names : {fields : Fields} → {vs : fields.Values Wording} →
    {members : List (String × Document)} → fields.WrittenAs vs members →
    ∀ key ∈ members.map Prod.fst, key ∈ fields.names
  | .nil, _, _, rfl, _, hkey => hkey
  | .cons name alternative _ rest, (v, vs), _, ⟨key, d, more, rfl, hkey, _, hmore⟩, k, hk => by
    rcases List.mem_cons.1 hk with rfl | hk
    · rcases hkey with rfl | rfl <;> simp [names]
    · have hrest := hmore.mem_names k hk
      simp [names, hrest]

/-- No key of a written form stands twice. -/
theorem WrittenAs.nodup : {fields : Fields} → {vs : fields.Values Wording} →
    {members : List (String × Document)} → fields.WellNamed → fields.WrittenAs vs members →
    (members.map Prod.fst).Nodup
  | .nil, _, _, _, rfl => List.nodup_nil
  | .cons name alternative _ rest, (v, vs), _, ⟨hname, halternative, _, hrest⟩,
      ⟨key, d, more, rfl, hkey, _, hmore⟩ => by
    rw [List.map_cons, List.nodup_cons]
    refine ⟨fun hmem => ?_, hmore.nodup hrest⟩
    rcases hkey with rfl | rfl
    · exact hname (hmore.mem_names _ hmem)
    · exact halternative (hmore.mem_names _ hmem)

end Fields

/-! ## Reading written forms -/

mutual

/-- Reading a written form yields the value. -/
theorem Kind.read_of_writtenAs : (kind : Kind) → kind.WellNamed → (v : kind.Value Wording) →
    (d : Document) → kind.WrittenAs v d → kind.read d = .ok v
  | .text, _, w, _, rfl => Document.readText_wording w
  | .int, _, _, _, rfl | .flag, _, _, _, rfl => rfl
  | .optionalFlag, _, none, _, rfl | .optionalFlag, _, some _, _, rfl => rfl
  | .optionalSection _ _, _, none, _, rfl => rfl
  | .ints, _, is, _, rfl => Document.readInts_eq_ok is
  | .texts, _, m, _, rfl => Document.readTexts_eq_ok m
  | .section _ _ fields, h, vs, _, ⟨_, _, hordered, hperm, rfl⟩ =>
    fields.read_of_writtenAs_perm h vs hordered hperm
  | .optionalSection _ fields, h, some vs, _, ⟨_, _, hordered, hperm, rfl⟩ =>
    congrArg (Except.map some) (fields.read_of_writtenAs_perm h vs hordered hperm)
  | .sections _ fields, h, _, _, ⟨_, rfl, hitems⟩ =>
    Document.readList_eq_ok (fun vs _ ⟨_, _, hordered, hperm, hd⟩ =>
      hd ▸ fields.read_of_writtenAs_perm h vs hordered hperm) hitems

/-- Reading the members of a section in any order yields the values of its fields. -/
theorem Fields.read_of_writtenAs_perm (fields : Fields) (h : fields.WellNamed)
    (vs : fields.Values Wording) {ordered members : List (String × Document)}
    (hordered : fields.WrittenAs vs ordered) (hperm : members.Perm ordered) :
    fields.read (Document.entriesOfRecord members) = .ok vs := by
  have hkeys : (members.map Prod.fst).Perm (ordered.map Prod.fst) := hperm.map Prod.fst
  refine fields.read_of_writtenAs h vs hordered (fun key d hd => ?_) (fun name _ hname => ?_)
  · exact Document.member?_eq_some (hkeys.nodup_iff.2 (hordered.nodup h)) (hperm.mem_iff.2 hd)
  · exact Document.member?_eq_none.2 fun hmem => hname (hkeys.mem_iff.1 hmem)

/-- Reading yields the values of the fields where each member is found under its key and nothing
under the other names. -/
theorem Fields.read_of_writtenAs : (fields : Fields) → fields.WellNamed →
    (vs : fields.Values Wording) → {members : List (String × Document)} →
    {entries : List (Scalar × Document)} →
    fields.WrittenAs vs members →
    (∀ key d, (key, d) ∈ members → Document.member? key entries = some d) →
    (∀ name ∈ fields.names, name ∉ members.map Prod.fst →
      Document.member? name entries = none) →
    fields.read entries = .ok vs
  | .nil, _, _, _, _, _, _, _ => rfl
  | .cons name alternative kind rest, ⟨hname, halternative, hkind, hrest⟩, (v, vs), _, entries,
      ⟨key, d, more, rfl, hkey, hd, hmore⟩, hfound, habsent => by
    have hmember : Document.findMember name alternative entries = some (key, d) := by
      have hkeyFound := hfound key d List.mem_cons_self
      unfold Document.findMember
      by_cases hfirst : key = name
      · rw [← hfirst, hkeyFound]
      · obtain rfl : key = alternative := hkey.resolve_left hfirst
        have hnone : Document.member? name entries = none := by
          refine habsent name (by simp [Fields.names]) fun hmem => ?_
          rcases List.mem_cons.1 hmem with heq | hmem
          · exact hfirst heq.symm
          · exact hname (hmore.mem_names name hmem)
        rw [hnone, hkeyFound]
        rfl
    have hothers : rest.read entries = .ok vs := by
      refine rest.read_of_writtenAs hrest vs hmore
        (fun k e he => hfound k e (List.mem_cons_of_mem _ he)) (fun n hn hnot => ?_)
      refine habsent n (by simp [Fields.names, hn]) fun hmem => ?_
      rcases List.mem_cons.1 hmem with rfl | hmem
      · rcases hkey with rfl | rfl
        · exact hname hn
        · exact halternative hn
      · exact hnot hmem
    have hvalue : (kind.read d).within key = .ok v := by
      rw [kind.read_of_writtenAs hkind v d hd]
      rfl
    rw [Fields.read, hmember]
    show Checked.both ((kind.read d).within key) (rest.read entries) = .ok (v, vs)
    rw [hvalue, hothers]
    rfl

end

end ClusterPlan
