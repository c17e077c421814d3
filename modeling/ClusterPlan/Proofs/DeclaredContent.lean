import ClusterPlan.Proofs.RoundTrip
import Mathlib.Logic.Relation

/-!
# Declared content

Of a document only what the fields of its sections declare counts. A change within one section, at
any depth of a document, is described by what it does to the members of that section
(`Kind.ChangedBy`), and it carries over to what is read of the document: if the members before and
after the change read alike, so do the documents (`Kind.read_changedBy`). To read alike may mean any
relation that goes through the ways in which sections are put together (`Checked.Congruence`).

Two changes are considered, each any number of times and in any sections. A member that no field
declares may be added (`Fields.Extends`), and then what is read stays the same, be it a plan or the
problems of the document. A member may be put under the other name of its field
(`Fields.Respells`), and then a plan stays the same; problems would name the member by its new name.

An envelope around the document, with whatever else it holds, makes no difference either
(`Definition.read_declared`).
-/

namespace ClusterPlan

open Relation

/-! ## Members -/

namespace Document

variable {name key : String} {d : Document} {xs ys : List (Scalar × Document)}

theorem member?_append :
    member? name (xs ++ ys) = (member? name xs).or (member? name ys) := by
  induction xs with
  | nil => rfl
  | cons x xs ih =>
    obtain ⟨k, d⟩ := x
    rw [List.cons_append]
    cases k with
    | text s =>
      by_cases h : s = name
      · simp [member?, h]
      · simp [member?, h, ih]
    | _ => simpa [member?] using ih

theorem member?_cons_text :
    member? name ((.text key, d) :: xs) = if key = name then some d else member? name xs := rfl

/-- A member under another key is not found. -/
theorem member?_cons_of_ne {k : Scalar} (h : k ≠ .text name) :
    member? name ((k, d) :: xs) = member? name xs := by
  cases k with
  | text s =>
    have hne : s ≠ name := fun heq => h (congrArg Scalar.text heq)
    rw [member?_cons_text, if_neg hne]
  | _ => rfl

/-- A member under another key can stand anywhere. -/
theorem member?_insert_of_ne {k : Scalar} (before after : List (Scalar × Document))
    (h : k ≠ .text name) :
    member? name (before ++ (k, d) :: after) = member? name (before ++ after) := by
  rw [member?_append, member?_append, member?_cons_of_ne h]

end Document

/-! ## Relations between what is read -/

/-- A relation between outcomes of reading that goes through the ways in which they are put
together. -/
structure Checked.Congruence (alike : ∀ {α : Type}, Checked α → Checked α → Prop) : Prop where
  refl : ∀ {α : Type} (x : Checked α), alike x x
  both : ∀ {α β : Type} {x x' : Checked α} {y y' : Checked β},
    alike x x' → alike y y' → alike (x.both y) (x'.both y')
  within : ∀ {α : Type} {x x' : Checked α} (step : String),
    alike x x' → alike (x.within step) (x'.within step)
  map : ∀ {α β : Type} {x x' : Checked α} (f : α → β), alike x x' → alike (x.map f) (x'.map f)

/-- What has been read is read again. -/
def Checked.Keeps {α : Type} (x x' : Checked α) : Prop :=
  ∀ a, x = .ok a → x' = .ok a

namespace Checked

variable {α β : Type}

theorem both_eq_ok {x : Checked α} {y : Checked β} {ab : α × β} :
    x.both y = .ok ab ↔ x = .ok ab.1 ∧ y = .ok ab.2 := by
  obtain ⟨a, b⟩ := ab
  cases x <;> cases y <;> simp [both]

theorem within_eq_ok {x : Checked α} {step : String} {a : α} :
    x.within step = .ok a ↔ x = .ok a := by
  cases x <;> simp [within]

theorem map_eq_ok {x : Checked α} {f : α → β} {b : β} :
    x.map f = .ok b ↔ ∃ a, x = .ok a ∧ f a = b := by
  cases x <;> simp [Except.map]

theorem congruence_eq : Congruence fun x x' => x = x' where
  refl _ := rfl
  both h h' := by rw [h, h']
  within _ h := by rw [h]
  map _ h := by rw [h]

theorem congruence_keeps : Congruence Keeps where
  refl _ _ h := h
  both hx hy := by
    intro ab h
    rw [both_eq_ok] at h ⊢
    exact ⟨hx _ h.1, hy _ h.2⟩
  within _ hx := by
    intro a h
    rw [within_eq_ok] at h ⊢
    exact hx a h
  map _ hx := by
    intro b h
    rw [map_eq_ok] at h ⊢
    obtain ⟨a, ha, hb⟩ := h
    exact ⟨a, hx a ha, hb⟩

end Checked

/-! ## Changes within one section -/

/-- The fields of a section as a list. -/
def Fields.toList : Fields → List (String × String × Kind)
  | .nil => []
  | .cons name alternative kind rest => (name, alternative, kind) :: rest.toList

section changes

/-- What is changed of the members of a section with the given fields. -/
abbrev SectionChange := Fields → List (Scalar × Document) → List (Scalar × Document) → Prop

variable (change : SectionChange)

mutual

/-- Two documents that differ by a change in one of their sections, which may be the document
itself. -/
inductive Kind.ChangedBy : Kind → Document → Document → Prop where
  | required {isRequired : Bool} {title : String} {fields : Fields}
      {members members' : List (Scalar × Document)} (h : Fields.ChangedBy fields members members') :
      Kind.ChangedBy (.section isRequired title fields) (.map members) (.map members')
  | optional {title : String} {fields : Fields} {members members' : List (Scalar × Document)}
      (h : Fields.ChangedBy fields members members') :
      Kind.ChangedBy (.optionalSection title fields) (.map members) (.map members')
  | item {title : String} {fields : Fields} {members members' : List (Scalar × Document)}
      (before after : List Document) (h : Fields.ChangedBy fields members members') :
      Kind.ChangedBy (.sections title fields) (.list (before ++ .map members :: after))
        (.list (before ++ .map members' :: after))

/-- Members of a section that differ by a change among them or within one of them. -/
inductive Fields.ChangedBy : Fields → List (Scalar × Document) → List (Scalar × Document) →
    Prop where
  | here {fields : Fields} {members members' : List (Scalar × Document)}
      (h : change fields members members') : Fields.ChangedBy fields members members'
  | inside {fields : Fields} {name alternative : String} {kind : Kind} {key : String}
      {d d' : Document} (before after : List (Scalar × Document))
      (hfield : (name, alternative, kind) ∈ fields.toList) (hkey : key = name ∨ key = alternative)
      (h : Kind.ChangedBy kind d d') :
      Fields.ChangedBy fields (before ++ (.text key, d) :: after)
        (before ++ (.text key, d') :: after)

end

end changes

/-! ## Reading the members of a section -/

/-- The value of a field, found under one of its names or absent. -/
def Kind.readMember (kind : Kind) (name alternative : String)
    (members : List (Scalar × Document)) : Checked (kind.Value Wording) :=
  match Document.findMember name alternative members with
  | some (found, d) => (kind.read d).within found
  | none => kind.readAbsent name

namespace Fields

variable {name alternative : String} {kind : Kind} {rest fields : Fields}
  {members members' : List (Scalar × Document)}

theorem read_cons : (cons name alternative kind rest).read members =
    (kind.readMember name alternative members).both (rest.read members) := rfl

theorem mem_names_of_mem : {fields : Fields} → (name, alternative, kind) ∈ fields.toList →
    name ∈ fields.names ∧ alternative ∈ fields.names
  | .cons n a k rest, h => by
    rcases List.mem_cons.1 h with heq | hrest
    · obtain ⟨rfl, rfl, rfl⟩ : name = n ∧ alternative = a ∧ kind = k := by simpa using heq
      simp [names]
    · obtain ⟨hname, halternative⟩ := mem_names_of_mem hrest
      simp [names, hname, halternative]

theorem WellNamed.of_mem : {fields : Fields} → fields.WellNamed →
    (name, alternative, kind) ∈ fields.toList → kind.WellNamed
  | .cons n a k rest, ⟨_, _, hkind, hrest⟩, h => by
    rcases List.mem_cons.1 h with heq | hmem
    · obtain ⟨rfl, rfl, rfl⟩ : name = n ∧ alternative = a ∧ kind = k := by simpa using heq
      exact hkind
    · exact hrest.of_mem hmem

/-- The field is found under the names that it has. -/
theorem readMember_congr
    (hname : Document.member? name members = Document.member? name members')
    (halternative : Document.member? alternative members = Document.member? alternative members') :
    kind.readMember name alternative members = kind.readMember name alternative members' := by
  unfold Kind.readMember Document.findMember
  rw [hname, halternative]

/-- Only what is found under the names of the fields counts. -/
theorem read_congr : (fields : Fields) →
    (∀ name ∈ fields.names, Document.member? name members = Document.member? name members') →
    fields.read members = fields.read members'
  | .nil, _ => rfl
  | .cons name alternative _ rest, h => by
    have hrest : rest.read members = rest.read members' :=
      rest.read_congr fun n hn => h n (by simp [names, hn])
    have hname := h name (by simp [names])
    have halternative := h alternative (by simp [names])
    rw [read_cons, read_cons, hrest, readMember_congr hname halternative]

variable {alike : ∀ {α : Type}, Checked α → Checked α → Prop}

/-- If the members differ under the names of one field only, and that field reads alike, then so do
all. -/
theorem read_of_readMember (halike : Checked.Congruence alike) : {fields : Fields} →
    fields.WellNamed → (name, alternative, kind) ∈ fields.toList →
    (∀ n, n ≠ name → n ≠ alternative →
      Document.member? n members = Document.member? n members') →
    alike (kind.readMember name alternative members)
      (kind.readMember name alternative members') →
    alike (fields.read members) (fields.read members')
  | .cons n a k rest, ⟨hn, ha, _, hrest⟩, hfield, hothers, hread => by
    rw [read_cons, read_cons]
    rcases List.mem_cons.1 hfield with heq | hfield
    · -- no other field has a name of this one
      obtain ⟨rfl, rfl, rfl⟩ : name = n ∧ alternative = a ∧ kind = k := by simpa using heq
      have hsame : rest.read members = rest.read members' := by
        refine rest.read_congr fun m hm => hothers m ?_ ?_
        · rintro rfl
          exact hn hm
        · rintro rfl
          exact ha hm
      rw [hsame]
      exact halike.both hread (halike.refl _)
    · obtain ⟨hname, halternative⟩ := mem_names_of_mem hfield
      have hsame : k.readMember n a members = k.readMember n a members' := by
        refine readMember_congr (hothers n ?_ ?_) (hothers a ?_ ?_)
        · exact fun heq => hn (heq ▸ hname)
        · exact fun heq => hn (heq ▸ halternative)
        · exact fun heq => ha (heq ▸ hname)
        · exact fun heq => ha (heq ▸ halternative)
      rw [hsame]
      exact halike.both (halike.refl _) (read_of_readMember halike hrest hfield hothers hread)

end Fields

namespace Document

variable {name alternative key key' : String} {d d' : Document}

/-- Members under other keys than the one that is replaced are found as before. -/
theorem member?_replace {before after before' after' : List (Scalar × Document)}
    (hrest : before ++ after = before' ++ after') (hkey : key ≠ name) (hkey' : key' ≠ name) :
    member? name (before ++ (.text key, d) :: after) =
      member? name (before' ++ (.text key', d') :: after') := by
  rw [member?_insert_of_ne before after fun h => hkey (Scalar.text.inj h),
    member?_insert_of_ne before' after' fun h => hkey' (Scalar.text.inj h), hrest]

/-- Of a member that gets another value either both values are found, or neither is. -/
theorem findMember_replace (before after : List (Scalar × Document))
    (hkey : key = name ∨ key = alternative) :
    findMember name alternative (before ++ (.text key, d) :: after) =
        findMember name alternative (before ++ (.text key, d') :: after) ∨
      (findMember name alternative (before ++ (.text key, d) :: after) = some (key, d) ∧
        findMember name alternative (before ++ (.text key, d') :: after) = some (key, d')) := by
  simp only [findMember, member?_append, member?_cons_text]
  cases hname : member? name before with
  | some found => exact .inl rfl
  | none =>
    by_cases hfirst : key = name
    · exact .inr (by simp [hfirst])
    · obtain rfl := hkey.resolve_left hfirst
      cases member? name after with
      | some found => exact .inl (by simp [hfirst])
      | none =>
        cases member? key before with
        | some found => exact .inl (by simp [hfirst])
        | none => exact .inr (by simp [hfirst])

/-- A member is found under either name of its field, if nothing else stands under the two. -/
theorem findMember_only (before after : List (Scalar × Document))
    (hkey : key = name ∨ key = alternative) (hname : member? name (before ++ after) = none)
    (halternative : member? alternative (before ++ after) = none) :
    findMember name alternative (before ++ (.text key, d) :: after) = some (key, d) := by
  simp only [member?_append, Option.or_eq_none_iff] at hname halternative
  simp only [findMember, member?_append, member?_cons_text, hname, halternative, Option.none_or]
  by_cases hfirst : key = name
  · simp [hfirst]
  · obtain rfl := hkey.resolve_left hfirst
    simp [hfirst]

end Document

/-! ## Changes carry over -/

section congruence

variable {change : SectionChange} {alike : ∀ {α : Type}, Checked α → Checked α → Prop}

/-- An item of a list that reads alike. -/
theorem readItems_alike (halike : Checked.Congruence alike) {α : Type}
    {read : Document → Checked α} {d d' : Document} (h : alike (read d) (read d'))
    (before after : List Document) (position : Nat) :
    alike (Document.readItems read position (before ++ d :: after))
      (Document.readItems read position (before ++ d' :: after)) := by
  induction before generalizing position with
  | nil =>
    exact halike.map _ (halike.both (halike.within _ h) (halike.refl _))
  | cons b before ih =>
    exact halike.map _ (halike.both (halike.refl _) (ih (position + 1)))

mutual

/-- Documents that differ by a change in one of their sections read alike, if all sections do that
differ by such a change among their members. -/
theorem Kind.read_changedBy (halike : Checked.Congruence alike)
    (hchange : ∀ (fields : Fields) members members', fields.WellNamed →
      change fields members members' → alike (fields.read members) (fields.read members')) :
    {kind : Kind} → {d d' : Document} → kind.WellNamed → kind.ChangedBy change d d' →
    alike (kind.read d) (kind.read d')
  | _, _, _, hwell, .required h => Fields.read_changedBy halike hchange hwell h
  | _, _, _, hwell, .optional h =>
    halike.map some (Fields.read_changedBy halike hchange hwell h)
  | _, _, _, hwell, .item before after h =>
    readItems_alike halike (Fields.read_changedBy halike hchange hwell h) before after 0

theorem Fields.read_changedBy (halike : Checked.Congruence alike)
    (hchange : ∀ (fields : Fields) members members', fields.WellNamed →
      change fields members members' → alike (fields.read members) (fields.read members')) :
    {fields : Fields} → {members members' : List (Scalar × Document)} → fields.WellNamed →
    fields.ChangedBy change members members' → alike (fields.read members) (fields.read members')
  | _, _, _, hwell, .here h => hchange _ _ _ hwell h
  | _, _, _, hwell, .inside before after hfield hkey h => by
    refine Fields.read_of_readMember halike hwell hfield (fun n hname halternative => ?_) ?_
    · have hne := hkey.elim (fun heq => heq ▸ hname.symm) fun heq => heq ▸ halternative.symm
      exact Document.member?_replace rfl hne hne
    · unfold Kind.readMember
      rcases Document.findMember_replace before after hkey with hsame | ⟨hfound, hfound'⟩
      · rw [hsame]
        exact halike.refl _
      · rw [hfound, hfound']
        exact halike.within _ (Kind.read_changedBy halike hchange (hwell.of_mem hfield) h)

end

/-- What is found under a name that no field has stays the same, if that holds of the change. -/
theorem Fields.ChangedBy.member?_eq {name : String}
    (hchange : ∀ fields members members', name ∉ fields.names → change fields members members' →
      Document.member? name members = Document.member? name members')
    {fields : Fields} {members members' : List (Scalar × Document)}
    (h : fields.ChangedBy change members members') (hname : name ∉ fields.names) :
    Document.member? name members = Document.member? name members' := by
  cases h with
  | here h => exact hchange _ _ _ hname h
  | @inside _ n a _ key _ _ before after hfield hkey _ =>
    have hne : key ≠ name := by
      rintro rfl
      obtain ⟨hn, ha⟩ := Fields.mem_names_of_mem hfield
      exact hkey.elim (fun heq => hname (heq ▸ hn)) fun heq => hname (heq ▸ ha)
    exact Document.member?_replace rfl hne hne

end congruence

/-! ## The two changes -/

/-- A member is added, at any place, under a key that is no name of a field. -/
inductive Fields.Extends : SectionChange
  | intro {fields : Fields} (before after : List (Scalar × Document)) (key : Scalar) (d : Document)
      (hkey : ∀ name ∈ fields.names, key ≠ .text name) :
      Extends fields (before ++ after) (before ++ (key, d) :: after)

/-- A member is put under the other name of its field, at any place, if nothing else stands under
the two. -/
inductive Fields.Respells : SectionChange
  | intro {fields : Fields} {name alternative : String} {kind : Kind} {key key' : String}
      (before after before' after' : List (Scalar × Document)) (d : Document)
      (hrest : before ++ after = before' ++ after')
      (hfield : (name, alternative, kind) ∈ fields.toList)
      (hkeys : (key = name ∧ key' = alternative) ∨ (key = alternative ∧ key' = name))
      (hkey : Document.member? key (before ++ after) = none)
      (hkey' : Document.member? key' (before ++ after) = none) :
      Respells fields (before ++ (.text key, d) :: after) (before' ++ (.text key', d) :: after')

namespace Fields

variable {fields : Fields} {members members' : List (Scalar × Document)}

/-- Members that no field declares do not count. -/
theorem Extends.read_eq (h : fields.Extends members members') :
    fields.read members = fields.read members' := by
  obtain ⟨before, after, key, d, hkey⟩ := h
  refine fields.read_congr fun name hname => ?_
  exact (Document.member?_insert_of_ne before after (hkey name hname)).symm

/-- The values of the fields are read under either name. -/
theorem Respells.keeps (hwell : fields.WellNamed) (h : fields.Respells members members') :
    Checked.Keeps (fields.read members) (fields.read members') := by
  obtain @⟨fields, name, alternative, kind, key, key', before, after, before', after', d, hrest,
    hfield, hkeys, hkey, hkey'⟩ := h
  have hone : key = name ∨ key = alternative := hkeys.imp And.left And.left
  have hother : key' = name ∨ key' = alternative := hkeys.symm.imp And.right And.right
  obtain ⟨hname, halternative⟩ : Document.member? name (before ++ after) = none ∧
      Document.member? alternative (before ++ after) = none := by
    rcases hkeys with ⟨rfl, rfl⟩ | ⟨rfl, rfl⟩
    · exact ⟨hkey, hkey'⟩
    · exact ⟨hkey', hkey⟩
  refine read_of_readMember Checked.congruence_keeps hwell hfield (fun n hn ha => ?_) ?_
  · refine Document.member?_replace hrest ?_ ?_
    · exact hone.elim (fun heq => heq ▸ hn.symm) fun heq => heq ▸ ha.symm
    · exact hother.elim (fun heq => heq ▸ hn.symm) fun heq => heq ▸ ha.symm
  · unfold Kind.readMember
    rw [Document.findMember_only before after hone hname halternative,
      Document.findMember_only before' after' hother (hrest ▸ hname) (hrest ▸ halternative)]
    intro v hv
    rw [Checked.within_eq_ok] at hv ⊢
    exact hv

/-- Under a name that no field has, nothing is found that was not there before. -/
theorem Respells.member?_eq {name : String} (hname : name ∉ fields.names)
    (h : fields.Respells members members') :
    Document.member? name members = Document.member? name members' := by
  obtain @⟨fields, _, _, _, key, key', _, _, _, _, d, hrest, hfield, hkeys, -, -⟩ := h
  obtain ⟨hn, ha⟩ := mem_names_of_mem hfield
  refine Document.member?_replace hrest ?_ ?_
  · rintro rfl
    rcases hkeys with ⟨rfl, -⟩ | ⟨rfl, -⟩
    · exact hname hn
    · exact hname ha
  · rintro rfl
    rcases hkeys with ⟨-, rfl⟩ | ⟨-, rfl⟩
    · exact hname ha
    · exact hname hn

end Fields

/-! ## Plans and definitions -/

namespace Plan

variable {d d' : Document} {p : Plan Wording}

/-- Members that no field declares are added to any sections of the document of a plan. -/
def Extends : Document → Document → Prop :=
  ReflTransGen (kind.ChangedBy Fields.Extends)

/-- Members of any sections of the document of a plan are put under the other names of their
fields. -/
def Respells : Document → Document → Prop :=
  ReflTransGen (kind.ChangedBy Fields.Respells)

theorem Extends.read_eq (h : Extends d d') : Plan.read d' = Plan.read d := by
  induction h with
  | refl => rfl
  | tail _ hlast ih =>
    have hsame := Kind.read_changedBy Checked.congruence_eq
      (fun _ _ _ _ => Fields.Extends.read_eq) wellNamed hlast
    rw [← ih, Plan.read, Plan.read, hsame]

theorem Respells.read_eq (h : Respells d d') (hread : Plan.read d = .ok p) :
    Plan.read d' = .ok p := by
  induction h with
  | refl => exact hread
  | tail _ hlast ih =>
    have hkeeps := Kind.read_changedBy Checked.congruence_keeps
      (fun _ _ _ => Fields.Respells.keeps) wellNamed hlast
    exact Checked.congruence_keeps.map ofValues hkeeps p ih

end Plan

/-- A map that is no envelope. -/
def Document.IsBare (d : Document) : Prop :=
  ∃ members, d = .map members ∧ member? "properties" members = none

theorem Plan.Respells.isBare {d d' : Document} (h : Plan.Respells d d') (hbare : d.IsBare) :
    d'.IsBare := by
  induction h with
  | refl => exact hbare
  | tail _ hlast ih =>
    obtain ⟨members, rfl, hnone⟩ := ih
    cases hlast with
    | required h =>
      refine ⟨_, rfl, ?_⟩
      rw [← h.member?_eq (fun _ _ _ => Fields.Respells.member?_eq) (by decide), hnone]

namespace Definition

variable {source : String} {d : Document}

/-- A document that is no envelope is read as a plan. -/
theorem read_of_isBare (h : d.IsBare) :
    read source d = (Plan.read d).mapError (.problems source) := by
  obtain ⟨members, rfl, hnone⟩ := h
  rw [read]
  simp only [hnone]
  cases Plan.read (.map members) <;> rfl

/-- An envelope is read as what it holds. -/
theorem read_of_envelope (h : d.IsBare) {envelope : List (Scalar × Document)}
    (hmember : Document.member? "properties" envelope = some d) :
    read source (.map envelope) = read source d := by
  rw [read_of_isBare h]
  obtain ⟨members, rfl, -⟩ := h
  rw [read]
  simp only [hmember]
  cases Plan.read (.map members) <;> rfl

/-- **Only declared content counts.** Around a document that is no envelope, an envelope changes
nothing, whatever else it holds. Members that no field declares may be added to any of its sections,
as long as it does not become an envelope, and the outcome stays the same, be it a plan or the
problems. And if the document describes a plan, any of its members may be put under the other names
of their fields, and it describes the same plan. -/
theorem read_declared (source : String) (d : Document) (hbare : d.IsBare) :
    (∀ envelope, Document.member? "properties" envelope = some d →
      read source (.map envelope) = read source d) ∧
    (∀ d', Plan.Extends d d' → d'.IsBare → read source d' = read source d) ∧
    ∀ p d', read source d = .ok p → Plan.Respells d d' → read source d' = .ok p := by
  refine ⟨fun envelope => read_of_envelope hbare, fun d' h hbare' => ?_, fun p d' hread h => ?_⟩
  · rw [read_of_isBare hbare, read_of_isBare hbare', h.read_eq]
  · rw [read_of_isBare hbare] at hread
    rw [read_of_isBare (h.isBare hbare)]
    cases hplan : Plan.read d with
    | error ps =>
      rw [hplan] at hread
      cases hread
    | ok p' =>
      rw [hplan] at hread
      obtain rfl := Except.ok.inj hread
      rw [h.read_eq hplan]
      rfl

/-- A definition, with some members of its pool left to choose. -/
def pooled (members : List (String × Document)) : Document :=
  .record [
    ("orchestratorProfile", .record [("orchestratorType", .text "DCOS")]),
    ("masterProfile", .record []),
    ("agentPoolProfiles", .list [.record members]),
    ("linuxProfile", .record [])]

/-- The pool of a definition reads the same with a comment, and with its size under another name. -/
theorem pooled_read_declared :
    (pooled [("vmSize", .text "small")]).IsBare ∧
    read "pools" (.record [("apiVersion", .text "v1"),
        ("properties", pooled [("vmSize", .text "small")])]) =
      read "pools" (pooled [("vmSize", .text "small")]) ∧
    read "pools" (pooled [("vmSize", .text "small"), ("comment", .null)]) =
      read "pools" (pooled [("vmSize", .text "small")]) ∧
    ∃ p, read "pools" (pooled [("vmSize", .text "small")]) = .ok p ∧
      read "pools" (pooled [("vm_size", .text "small")]) = .ok p := by
  have hbare : ∀ members, (pooled members).IsBare := fun members => ⟨_, rfl, rfl⟩
  -- a change of the members of the pool is a change within the definition
  have hwithin : ∀ (change : SectionChange) (members members' : List (String × Document)),
      change Pool.fields (Document.entriesOfRecord members) (Document.entriesOfRecord members') →
      Plan.kind.ChangedBy change (pooled members) (pooled members') := by
    intro change members members' h
    have hpools : ("agentPoolProfiles", "agent_pool_profiles",
        Kind.sections "AgentPoolProfile" Pool.fields) ∈ Plan.fields.toList := by
      simp [Plan.fields, Fields.toList]
    exact .required (.inside
      (Document.entriesOfRecord [
        ("orchestratorProfile", .record [("orchestratorType", .text "DCOS")]),
        ("masterProfile", .record [])])
      (Document.entriesOfRecord [("linuxProfile", .record [])])
      hpools (.inl rfl) (.item [] [] (.here h)))
  have hsize : ("vmSize", "vm_size", Kind.text) ∈ Pool.fields.toList := by
    simp [Pool.fields, Fields.toList]
  have hextends : Plan.Extends (pooled [("vmSize", .text "small")])
      (pooled [("vmSize", .text "small"), ("comment", .null)]) :=
    .single (hwithin _ _ _ (.intro [_] [] (.text "comment") .null (by decide)))
  have hrespells : Plan.Respells (pooled [("vmSize", .text "small")])
      (pooled [("vm_size", .text "small")]) :=
    .single (hwithin _ _ _ (.intro [] [] [] [] (.text "small") rfl hsize (.inl ⟨rfl, rfl⟩)
      rfl rfl))
  obtain ⟨p, hread⟩ : ∃ p, read "pools" (pooled [("vmSize", .text "small")]) = .ok p := ⟨_, rfl⟩
  obtain ⟨henvelope, hmore, hother⟩ := read_declared "pools" _ (hbare [("vmSize", .text "small")])
  exact ⟨hbare _, henvelope _ rfl, hmore _ hextends (hbare _), p, hread, hother p _ hread hrespells⟩

end Definition

end ClusterPlan
