import ClusterPlan.Proofs.NumeralGrammar
import ClusterPlan.Proofs.Settings

/-!
# Settings from an environment

An environment asks for default ports and for a greatest file size (`Settings.Asks`). The ports are
the integers that the items of a list denote, blank items aside (`Settings.Lists`), and the size is
the integer that a text denotes. What is not asked for is as in the standard draft.

It is not clear what an environment asks for if an item or the size denotes no integer
(`Settings.HasUnreadableItem`, `Settings.HasUnreadableSize`). If it is clear, there are settings iff
the draft with the ports and the size has no problems (`Settings.ofEnvironment_of_asks`). Nothing
else can happen (`Settings.comesTo_ofEnvironment`), and `Settings.ofEnvironment_grants_or_refuses`
puts this together.
-/

namespace ClusterPlan

open ClusterPlan.Text

/-- The standard draft with other ports and another file size. -/
def Draft.standardWith (ports : List Int) (size : Int) : Draft :=
  { Draft.standard with defaultPorts := ports, maxFileSize := size }

theorem Draft.problems_standardWith {ports : List Int} {size : Int} :
    (Draft.standardWith ports size).problems = [] ↔ ValidPorts ports ∧ 1 ≤ size := by
  rw [Draft.problems_eq_nil]
  have hretries : (1 : Int) ≤ Draft.standard.minKubeletRetries := by decide
  exact and_congr_right fun _ => and_iff_left hretries

namespace Settings

/-! ## Lists of integers -/

section lists

variable {item : List Char} {items : List (List Char)} {value : Int} {values : List Int}

/-- The integers that items list. An item of blanks lists none, and every other item the integer
that it denotes, the blanks around it aside. -/
inductive Lists : List (List Char) → List Int → Prop where
  | nil : Lists [] []
  | blank {item : List Char} {items : List (List Char)} {values : List Int}
      (hblank : ∀ c ∈ item, isBlank c = true) (hitems : Lists items values) :
      Lists (item :: items) values
  | value {item : List Char} {items : List (List Char)} {value : Int} {values : List Int}
      (hvalue : Numeral.Denotes 10 (trim isBlank item) value) (hitems : Lists items values) :
      Lists (item :: items) (value :: values)

/-- An item that is not blank and denotes no integer. -/
def IsUnreadable (item : List Char) : Prop :=
  (∃ c ∈ item, isBlank c = false) ∧ ∀ value, ¬ Numeral.Denotes 10 (trim isBlank item) value

theorem not_denotes_of_blank (hblank : ∀ c ∈ item, isBlank c = true) :
    ¬ Numeral.Denotes 10 (trim isBlank item) value := by
  rw [Numeral.trim_eq_nil.2 hblank, ← Numeral.read_eq_some_iff]
  exact nofun

/-- The reader of the items that are left when the blank ones are dropped. -/
theorem readItems_eq_some :
    ((items.map (trim isBlank)).filter (!·.isEmpty)).mapM (Numeral.read 10) = some values ↔
      Lists items values := by
  induction items generalizing values with
  | nil =>
    simp only [List.map_nil, List.filter_nil, List.mapM_nil, Option.pure_def, Option.some.injEq]
    constructor
    · rintro rfl
      exact .nil
    · rintro ⟨⟩
      rfl
  | cons item items ih =>
    rw [List.map_cons]
    by_cases hblank : ∀ c ∈ item, isBlank c = true
    · rw [List.filter_cons_of_neg (by simp [Numeral.trim_eq_nil.2 hblank]), ih]
      constructor
      · exact .blank hblank
      · rintro (_ | ⟨-, hitems⟩ | ⟨hvalue, -⟩)
        · exact hitems
        · exact absurd hvalue (not_denotes_of_blank hblank)
    · have hne : trim isBlank item ≠ [] := fun hnil => hblank (Numeral.trim_eq_nil.1 hnil)
      rw [List.filter_cons_of_pos (by simpa using hne), List.mapM_cons]
      simp only [Option.bind_eq_bind, Option.bind_eq_some_iff, Option.pure_def,
        Option.some.injEq, Numeral.read_eq_some_iff, ih]
      constructor
      · rintro ⟨value, hvalue, values, hitems, rfl⟩
        exact .value hvalue hitems
      · rintro (_ | ⟨hnot, -⟩ | ⟨hvalue, hitems⟩)
        · exact absurd hnot hblank
        · exact ⟨_, hvalue, _, hitems, rfl⟩

theorem readIntegers_eq_some {text : String} :
    readIntegers text = some values ↔ Lists (splitOn ',' text.toList) values :=
  readItems_eq_some

/-- Items list integers iff all of them can be read. -/
theorem exists_lists_iff :
    (∃ values, Lists items values) ↔ ∀ item ∈ items, ¬ IsUnreadable item := by
  induction items with
  | nil => exact iff_of_true ⟨[], .nil⟩ nofun
  | cons item items ih =>
    rw [List.forall_mem_cons, ← ih]
    constructor
    · rintro ⟨values, _ | ⟨hblank, hitems⟩ | ⟨hvalue, hitems⟩⟩
      · refine ⟨?_, values, hitems⟩
        rintro ⟨⟨c, hc, hnot⟩, -⟩
        rw [hblank c hc] at hnot
        cases hnot
      · exact ⟨fun hunreadable => hunreadable.2 _ hvalue, _, hitems⟩
    · rintro ⟨hitem, values, hitems⟩
      by_cases hblank : ∀ c ∈ item, isBlank c = true
      · exact ⟨values, .blank hblank hitems⟩
      · have hsolid : ∃ c ∈ item, isBlank c = false := by simpa using hblank
        obtain ⟨value, hvalue⟩ := Classical.not_forall_not.1 fun hnone => hitem ⟨hsolid, hnone⟩
        exact ⟨value :: values, .value hvalue hitems⟩

theorem Lists.denotes (h : Lists items values) (hvalue : value ∈ values) :
    ∃ cs, Numeral.Denotes 10 cs value := by
  induction h with
  | nil => cases hvalue
  | blank _ _ ih => exact ih hvalue
  | value hdenotes _ ih =>
    rcases List.mem_cons.1 hvalue with rfl | hvalue
    · exact ⟨_, hdenotes⟩
    · exact ih hvalue

end lists

/-! ## What an environment asks for -/

variable {lookup : String → Option String} {ports : List Int} {size : Int}

/-- The ports that an environment asks for. A variable that is empty counts as absent. -/
inductive AsksForPorts (lookup : String → Option String) : List Int → Prop where
  | standard (h : ∀ text, lookup portsVariable = some text → text = "") :
      AsksForPorts lookup Draft.standard.defaultPorts
  | listed {text : String} {ports : List Int} (h : lookup portsVariable = some text)
      (hne : text ≠ "") (hports : Lists (splitOn ',' text.toList) ports) :
      AsksForPorts lookup ports

/-- The greatest file size that an environment asks for. -/
inductive AsksForSize (lookup : String → Option String) : Int → Prop where
  | standard (h : lookup fileSizeVariable = none) : AsksForSize lookup Draft.standard.maxFileSize
  | given {text : String} {size : Int} (h : lookup fileSizeVariable = some text)
      (hsize : Numeral.Denotes 10 text.toList size) : AsksForSize lookup size

/-- What an environment asks for. -/
structure Asks (lookup : String → Option String) (ports : List Int) (size : Int) : Prop where
  ports : AsksForPorts lookup ports
  size : AsksForSize lookup size

/-- The ports that an environment asks for are not clear. -/
def HasUnreadableItem (lookup : String → Option String) : Prop :=
  ∃ text, lookup portsVariable = some text ∧ ∃ item ∈ splitOn ',' text.toList, IsUnreadable item

/-- The file size that an environment asks for is not clear. -/
def HasUnreadableSize (lookup : String → Option String) : Prop :=
  ∃ text, lookup fileSizeVariable = some text ∧ ∀ size, ¬ Numeral.Denotes 10 text.toList size

theorem asksForPorts_or_unreadable (lookup : String → Option String) :
    (∃ ports, AsksForPorts lookup ports) ∨ HasUnreadableItem lookup := by
  by_cases hgiven : ∃ text, lookup portsVariable = some text ∧ text ≠ ""
  · obtain ⟨text, htext, hne⟩ := hgiven
    by_cases hitems : ∃ item ∈ splitOn ',' text.toList, IsUnreadable item
    · exact .inr ⟨text, htext, hitems⟩
    · obtain ⟨ports, hports⟩ := exists_lists_iff.2 fun item hitem hunreadable =>
        hitems ⟨item, hitem, hunreadable⟩
      exact .inl ⟨ports, .listed htext hne hports⟩
  · refine .inl ⟨_, .standard fun text htext => ?_⟩
    by_cases hempty : text = ""
    · exact hempty
    · exact absurd ⟨text, htext, hempty⟩ hgiven

theorem asksForSize_or_unreadable (lookup : String → Option String) :
    (∃ size, AsksForSize lookup size) ∨ HasUnreadableSize lookup := by
  cases htext : lookup fileSizeVariable with
  | none => exact .inl ⟨_, .standard htext⟩
  | some text =>
    by_cases hsize : ∃ size, Numeral.Denotes 10 text.toList size
    · obtain ⟨size, hsize⟩ := hsize
      exact .inl ⟨size, .given htext hsize⟩
    · exact .inr ⟨text, htext, not_exists.1 hsize⟩

theorem AsksForSize.not_unreadable (h : AsksForSize lookup size) : ¬ HasUnreadableSize lookup := by
  rintro ⟨text, htext, hnone⟩
  cases h with
  | standard h => cases h.symm.trans htext
  | given h hsize =>
    obtain rfl := Option.some.inj (h.symm.trans htext)
    exact hnone size hsize

/-! ## What the settings of an environment come to -/

theorem ofEnvironment_of_unreadableItem (h : HasUnreadableItem lookup) :
    ∃ text, ofEnvironment lookup = .error (.noIntegers portsVariable text) := by
  obtain ⟨text, htext, item, hitem, hunreadable⟩ := h
  have hsome : text.isEmpty = false := by
    rw [String.isEmpty_eq_false_iff]
    rintro rfl
    obtain ⟨⟨c, hc, -⟩, -⟩ := hunreadable
    rw [List.mem_singleton.1 hitem] at hc
    cases hc
  have hnone : readIntegers text = none := by
    rw [Option.eq_none_iff_forall_ne_some]
    intro values hread
    exact exists_lists_iff.1 ⟨values, readIntegers_eq_some.1 hread⟩ item hitem hunreadable
  refine ⟨text, ?_⟩
  unfold ofEnvironment
  simp only [htext, hsome, hnone]
  rfl

/-- The last steps, which come after the ports have been read: the file size is read, and the draft
is checked. -/
def ofPorts (lookup : String → Option String) (ports : List Int) :
    Except SettingsFault Settings := do
  let size ← match lookup fileSizeVariable with
    | none => pure Draft.standard.maxFileSize
    | some text => match Numeral.read 10 text.toList with
      | some size => pure size
      | none => throw (.noInteger fileSizeVariable text)
  ofDraft { Draft.standard with defaultPorts := ports, maxFileSize := size }

theorem ofEnvironment_of_asksForPorts (h : AsksForPorts lookup ports) :
    ofEnvironment lookup = ofPorts lookup ports := by
  unfold ofEnvironment
  cases h with
  | standard h =>
    cases htext : lookup portsVariable with
    | none => rfl
    | some text =>
      obtain rfl := h text htext
      rfl
  | listed h hne hports =>
    have hsome := String.isEmpty_eq_false_iff.2 hne
    simp only [h, hsome, readIntegers_eq_some.2 hports]
    rfl

theorem ofPorts_of_unreadableSize (h : HasUnreadableSize lookup) :
    ∃ text, ofPorts lookup ports = .error (.noInteger fileSizeVariable text) := by
  obtain ⟨text, htext, hsize⟩ := h
  have hnone : Numeral.read 10 text.toList = none := by
    rw [Option.eq_none_iff_forall_ne_some]
    intro size hread
    exact hsize size (Numeral.read_eq_some_iff.1 hread)
  refine ⟨text, ?_⟩
  unfold ofPorts
  simp only [htext, hnone]
  rfl

theorem ofPorts_of_asksForSize (h : AsksForSize lookup size) :
    ofPorts lookup ports = ofDraft (Draft.standardWith ports size) := by
  unfold ofPorts
  cases h with
  | standard h =>
    simp only [h]
    rfl
  | given h hsize =>
    simp only [h, Numeral.read_eq_some_iff.2 hsize]
    rfl

theorem ofEnvironment_of_asks (h : Asks lookup ports size) :
    ofEnvironment lookup = ofDraft (Draft.standardWith ports size) := by
  rw [ofEnvironment_of_asksForPorts h.ports, ofPorts_of_asksForSize h.size]

/-- An environment that asks for what can be had comes to settings with it. -/
theorem ofEnvironment_of_valid (h : Asks lookup ports size)
    (hvalid : ValidPorts ports ∧ 1 ≤ size) :
    ∃ s, ofEnvironment lookup = .ok s ∧ s.toDraft = Draft.standardWith ports size := by
  have hsound := Draft.problems_standardWith.2 hvalid
  refine ⟨⟨Draft.standardWith ports size, hsound⟩, ?_, rfl⟩
  rw [ofEnvironment_of_asks h, ofDraft, dif_pos hsound]

/-- An environment that asks for anything else is refused with all problems of it. -/
theorem ofEnvironment_of_invalid (h : Asks lookup ports size)
    (hnot : ¬ (ValidPorts ports ∧ 1 ≤ size)) :
    ofEnvironment lookup = .error (.unsound (Draft.standardWith ports size).problems) := by
  rw [← Draft.problems_standardWith] at hnot
  rw [ofEnvironment_of_asks h, ofDraft, dif_neg hnot]

/-- All that the settings of an environment can come to. -/
inductive ComesTo (lookup : String → Option String) : Except SettingsFault Settings → Prop where
  | granted {ports : List Int} {size : Int} {s : Settings} (hasks : Asks lookup ports size)
      (hvalid : ValidPorts ports ∧ 1 ≤ size) (hdraft : s.toDraft = Draft.standardWith ports size) :
      ComesTo lookup (.ok s)
  | unsound {ports : List Int} {size : Int} (hasks : Asks lookup ports size)
      (hnot : ¬ (ValidPorts ports ∧ 1 ≤ size)) :
      ComesTo lookup (.error (.unsound (Draft.standardWith ports size).problems))
  | noIntegers {text : String} (hitem : HasUnreadableItem lookup) :
      ComesTo lookup (.error (.noIntegers portsVariable text))
  | noInteger {text : String} (hsize : HasUnreadableSize lookup) :
      ComesTo lookup (.error (.noInteger fileSizeVariable text))

theorem comesTo_ofEnvironment (lookup : String → Option String) :
    ComesTo lookup (ofEnvironment lookup) := by
  rcases asksForPorts_or_unreadable lookup with ⟨ports, hports⟩ | hitem
  · rcases asksForSize_or_unreadable lookup with ⟨size, hsize⟩ | hsize
    · have hasks : Asks lookup ports size := ⟨hports, hsize⟩
      by_cases hvalid : ValidPorts ports ∧ 1 ≤ size
      · obtain ⟨s, hs, hdraft⟩ := ofEnvironment_of_valid hasks hvalid
        rw [hs]
        exact .granted hasks hvalid hdraft
      · rw [ofEnvironment_of_invalid hasks hvalid]
        exact .unsound hasks hvalid
    · obtain ⟨text, htext⟩ : ∃ text, ofPorts lookup ports = _ := ofPorts_of_unreadableSize hsize
      rw [ofEnvironment_of_asksForPorts hports, htext]
      exact .noInteger hsize
  · obtain ⟨text, htext⟩ := ofEnvironment_of_unreadableItem hitem
    rw [htext]
    exact .noIntegers hitem

/-- There are no settings iff it is not clear what an environment asks for, or it asks for what
cannot be had. -/
theorem exists_fault_iff :
    (∃ fault, ofEnvironment lookup = .error fault) ↔
      HasUnreadableItem lookup ∨ HasUnreadableSize lookup ∨
        ∃ ports size, Asks lookup ports size ∧ ¬ (ValidPorts ports ∧ 1 ≤ size) := by
  have hcomes := comesTo_ofEnvironment lookup
  constructor
  · rintro ⟨fault, hfault⟩
    rw [hfault] at hcomes
    cases hcomes with
    | unsound hasks hnot => exact .inr (.inr ⟨_, _, hasks, hnot⟩)
    | noIntegers hitem => exact .inl hitem
    | noInteger hsize => exact .inr (.inl hsize)
  · rintro (hitem | hsize | ⟨ports, size, hasks, hnot⟩)
    · obtain ⟨text, htext⟩ := ofEnvironment_of_unreadableItem hitem
      exact ⟨_, htext⟩
    · cases hresult : ofEnvironment lookup with
      | error fault => exact ⟨fault, rfl⟩
      | ok s =>
        rw [hresult] at hcomes
        cases hcomes with
        | granted hasks => exact absurd hsize hasks.size.not_unreadable
    · exact ⟨_, ofEnvironment_of_invalid hasks hnot⟩

/-! ## The wording of refusals -/

/-- A port out of range that an environment asks for can be written out. -/
theorem AsksForPorts.isWritable (h : AsksForPorts lookup ports) {port : Int} (hport : port ∈ ports)
    (hrange : ¬ (1 ≤ port ∧ port ≤ 65535)) : Numeral.isWritable port = true := by
  cases h with
  | standard h =>
    have hstandard : ∀ port ∈ Draft.standard.defaultPorts, 1 ≤ port ∧ port ≤ 65535 := by decide
    exact absurd (hstandard port hport) hrange
  | listed h hne hports =>
    obtain ⟨cs, hdenotes⟩ := hports.denotes hport
    exact hdenotes.isWritable

theorem isSpeakable_unsound (h : AsksForPorts lookup ports) :
    (SettingsFault.unsound (Draft.standardWith ports size).problems).isSpeakable = true := by
  rw [SettingsFault.isSpeakable, List.all_eq_true]
  intro problem hproblem
  cases problem with
  | portOutOfRange port =>
    rw [Draft.problems_eq_filter, List.mem_filter] at hproblem
    obtain ⟨hcheck, hviolates⟩ := hproblem
    have hport : port ∈ ports := by simpa [Draft.checks, Draft.standardWith] using hcheck
    exact h.isWritable hport (of_decide_eq_true hviolates)
  | noPorts | repeatedPorts | fileSize | retries => rfl

theorem ComesTo.isSpeakable {fault : SettingsFault} (h : ComesTo lookup (.error fault)) :
    fault.isSpeakable = true := by
  cases h with
  | unsound hasks hnot => exact isSpeakable_unsound hasks.ports
  | noIntegers | noInteger => rfl

/-- **Settings from any environment.** The settings of an environment have the ports and the file
size that it asks for, the ports can be handed out, the size is positive, and all else is as in the
standard draft. A refusal can always be worded. There is one iff an item of the ports or the size
cannot be read, or the ports cannot be handed out or the size is not positive. In the last case it
tells which checks the draft does not pass, in their order and each in a line of its own. -/
theorem ofEnvironment_grants_or_refuses (lookup : String → Option String) :
    (∀ s, ofEnvironment lookup = .ok s → ∃ ports size, Asks lookup ports size ∧
      ValidPorts ports ∧ 1 ≤ size ∧ s.toDraft = Draft.standardWith ports size) ∧
    (∀ fault, ofEnvironment lookup = .error fault → fault.isSpeakable = true) ∧
    ((∃ fault, ofEnvironment lookup = .error fault) ↔
      HasUnreadableItem lookup ∨ HasUnreadableSize lookup ∨
        ∃ ports size, Asks lookup ports size ∧ ¬ (ValidPorts ports ∧ 1 ≤ size)) ∧
    ∀ ports size, Asks lookup ports size → ¬ (ValidPorts ports ∧ 1 ≤ size) →
      ∃ problems, ofEnvironment lookup = .error (.unsound problems) ∧
        problems = (Draft.standardWith ports size).checks.filter
          ((Draft.standardWith ports size).Violates ·) ∧
        splitOn '\n' (SettingsFault.unsound problems).message.toList =
          SettingsFault.lines problems := by
  have hcomes := comesTo_ofEnvironment lookup
  refine ⟨fun s hs => ?_, fun fault hfault => ?_, exists_fault_iff, fun ports size hasks hnot => ?_⟩
  · rw [hs] at hcomes
    cases hcomes with
    | granted hasks hvalid hdraft => exact ⟨_, _, hasks, hvalid.1, hvalid.2, hdraft⟩
  · rw [hfault] at hcomes
    exact hcomes.isSpeakable
  · have hproblems : (Draft.standardWith ports size).problems ≠ [] := by
      rwa [Ne, Draft.problems_standardWith]
    exact ⟨_, ofEnvironment_of_invalid hasks hnot, Draft.problems_eq_filter _,
      SettingsFault.lines_message hproblems⟩

/-- Blank items do not count, and an integer may be written with a sign and with underscores. -/
example :
    (ofEnvironment fun key =>
      if key = portsVariable then some " 8_000,, +443" else none).toOption.map
        (·.defaultPorts) = some [8000, 443] := by
  decide

/-- Two ports out of range come to a line each, although they are the same port. -/
theorem ofEnvironment_of_repeated_port :
    let lookup := fun key => if key = portsVariable then some "0,80,00" else some "-1"
    Asks lookup [0, 80, 0] (-1) ∧
      ∃ problems, ofEnvironment lookup = .error (.unsound problems) ∧
        splitOn '\n' (SettingsFault.unsound problems).message.toList =
          ["Configuration validation failed:".toList,
            "  - default agent port out of range: 0".toList,
            "  - default agent port out of range: 0".toList,
            "  - default agent ports must be unique".toList,
            "  - max spec file size must be at least 1 byte".toList] := by
  intro lookup
  have hports : lookup portsVariable = some "0,80,00" := rfl
  have hsize : lookup fileSizeVariable = some "-1" := rfl
  have hasks : Asks lookup [0, 80, 0] (-1) := by
    refine ⟨.listed hports (by decide) (readIntegers_eq_some.1 ?_), .given hsize ?_⟩
    · decide
    · exact Numeral.read_eq_some_iff.1 (by decide)
  have hnot : ¬ (ValidPorts [0, 80, 0] ∧ (1 : Int) ≤ -1) := fun h => absurd h.2 (by decide)
  obtain ⟨problems, hrefused, rfl, hlines⟩ :=
    (ofEnvironment_grants_or_refuses lookup).2.2.2 [0, 80, 0] (-1) hasks hnot
  refine ⟨hasks, _, hrefused, ?_⟩
  rw [hlines]
  decide +kernel

end Settings

end ClusterPlan
