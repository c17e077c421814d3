import ClusterPlan.Settings

/-!
# What settings guarantee

A draft without problems has ports that can be handed out: there are some, they differ, and each is
in the range of ports (`Draft.portProblems_eq_nil`). So the default ports of settings have these
properties (`Settings.validPorts`). Settings also ask for one report at least
(`Settings.one_le_minKubeletRetries`).

A draft with problems is refused with all of them. `Draft.checks` lists what a draft is checked for
and `Draft.Violates` which checks it does not pass; the problems of a draft are these, in the order
of the checks (`Draft.problems_eq_filter`). The wording of a refusal has one line for each of them
(`SettingsFault.lines_message`).
-/

namespace ClusterPlan

open ClusterPlan.Text

/-- Ports that can be handed out to a pool. -/
structure ValidPorts (ports : List Int) : Prop where
  nonempty : ports ≠ []
  nodup : ports.Nodup
  inRange : ∀ port ∈ ports, 1 ≤ port ∧ port ≤ 65535

/-- A draft has no problem with its ports iff they can be handed out. -/
theorem Draft.portProblems_eq_nil {ports : List Int} :
    Draft.portProblems ports = [] ↔ ValidPorts ports := by
  unfold portProblems isPort
  rw [List.append_eq_nil_iff, List.append_eq_nil_iff]
  constructor
  · rintro ⟨⟨hnonempty, hrange⟩, hnodup⟩
    refine ⟨by simpa using hnonempty, by simpa using hnodup, ?_⟩
    simpa using hrange
  · intro h
    refine ⟨⟨by simpa using h.nonempty, ?_⟩, by simpa using h.nodup⟩
    simpa using h.inRange

/-- The default ports of settings can be handed out. -/
theorem Settings.validPorts (s : Settings) : ValidPorts s.defaultPorts := by
  have h := s.sound
  unfold Draft.problems at h
  rw [List.append_eq_nil_iff, List.append_eq_nil_iff] at h
  exact Draft.portProblems_eq_nil.1 h.1.1

/-- Settings ask for one report at least. -/
theorem Settings.one_le_minKubeletRetries (s : Settings) : 1 ≤ s.minKubeletRetries := by
  apply Int.not_lt.1
  intro hless
  have h := s.sound
  unfold Draft.problems at h
  rw [List.append_eq_nil_iff, if_pos hless] at h
  exact absurd h.2 (List.cons_ne_nil _ _)

/-! ## Reports of problems -/

namespace Draft

/-- The conditions on a draft, each told by the problem of a draft that violates it. -/
def Violates (d : Draft) : DraftProblem → Prop
  | .noPorts => d.defaultPorts = []
  | .portOutOfRange port => ¬ (1 ≤ port ∧ port ≤ 65535)
  | .repeatedPorts => ¬ d.defaultPorts.Nodup
  | .fileSize => ¬ 1 ≤ d.maxFileSize
  | .retries => ¬ 1 ≤ d.minKubeletRetries

instance (d : Draft) : DecidablePred d.Violates
  | .noPorts => inferInstanceAs (Decidable (_ = _))
  | .portOutOfRange _ => inferInstanceAs (Decidable (¬ (_ ∧ _)))
  | .repeatedPorts => inferInstanceAs (Decidable (¬ List.Nodup _))
  | .fileSize => inferInstanceAs (Decidable (¬ _ ≤ _))
  | .retries => inferInstanceAs (Decidable (¬ _ ≤ _))

/-- What a draft is checked for, in the order of the checks. Each port has a check of its own. -/
def checks (d : Draft) : List DraftProblem :=
  .noPorts :: (d.defaultPorts.map .portOutOfRange ++ [.repeatedPorts, .fileSize, .retries])

/-- The problems of a draft are those that its checks find. -/
theorem problems_eq_filter (d : Draft) : d.problems = d.checks.filter (d.Violates ·) := by
  have hsingle : ∀ problem, [problem].filter (d.Violates ·) =
      if d.Violates problem then [problem] else [] := by
    intro problem
    simp [List.filter_cons]
  have hports : (d.defaultPorts.map .portOutOfRange).filter (d.Violates ·) =
      (d.defaultPorts.filter (!isPort ·)).map .portOutOfRange := by
    rw [List.filter_map]
    congr 2
    funext port
    rw [Bool.eq_iff_iff]
    simp [Violates, isPort]
  have hchecks : d.checks = [.noPorts] ++ d.defaultPorts.map .portOutOfRange ++
      [.repeatedPorts] ++ [.fileSize] ++ [.retries] := by
    simp [checks]
  rw [hchecks]
  simp only [List.filter_append, hsingle, hports]
  by_cases hempty : d.defaultPorts = [] <;> by_cases hnodup : d.defaultPorts.Nodup <;>
    simp [problems, portProblems, Violates, hempty, hnodup]

/-- A draft has no problem iff its ports can be handed out and its numbers are positive. -/
theorem problems_eq_nil {d : Draft} :
    d.problems = [] ↔
      ValidPorts d.defaultPorts ∧ 1 ≤ d.maxFileSize ∧ 1 ≤ d.minKubeletRetries := by
  unfold problems
  rw [List.append_eq_nil_iff, List.append_eq_nil_iff, portProblems_eq_nil, and_assoc]
  simp

end Draft

/-! ## The wording of a refusal -/

/-- A number is written in one line. -/
theorem newline_not_mem_toString (i : Int) : '\n' ∉ (toString i).toList := by
  have hnat : ∀ n : Nat, '\n' ∉ (toString n).toList := by
    intro n hn
    rw [Nat.toString_eq_repr, Nat.repr_eq_ofList_toDigits, String.toList_ofList] at hn
    exact absurd (Nat.isDigit_of_mem_toDigits (by decide) (by decide) hn) (by decide)
  cases i with
  | ofNat n => exact hnat n
  | negSucc n =>
    have hsign : toString (Int.negSucc n) = "-" ++ toString (n + 1) := rfl
    rw [hsign, String.toList_append, List.mem_append]
    exact not_or.2 ⟨by decide, hnat (n + 1)⟩

@[simp]
theorem DraftProblem.message_portOutOfRange (port : Int) :
    (portOutOfRange port).message = "default agent port out of range: " ++ toString port := by
  unfold message
  rfl

/-- A problem is told in one line. -/
theorem DraftProblem.newline_not_mem_message (problem : DraftProblem) :
    '\n' ∉ problem.message.toList := by
  cases problem with
  | portOutOfRange port =>
    rw [message_portOutOfRange, String.toList_append, List.mem_append]
    exact not_or.2 ⟨by decide, newline_not_mem_toString port⟩
  | noPorts | repeatedPorts | fileSize | retries => decide

/-- Texts with a mark and a bullet before each are the lines of a list. -/
theorem intercalate_bullets (mark : Char) (bullet text : List Char) (texts : List (List Char)) :
    (mark :: bullet) ++ (mark :: bullet).intercalate (text :: texts) =
      mark :: joinWith mark ((text :: texts).map (bullet ++ ·)) := by
  induction texts generalizing text with
  | nil => simp [joinWith]
  | cons next texts ih =>
    have hjoin : joinWith mark ((text :: next :: texts).map (bullet ++ ·)) =
        (bullet ++ text) ++ mark :: joinWith mark ((next :: texts).map (bullet ++ ·)) :=
      joinWith_cons (by simp)
    rw [List.intercalate_cons_cons, List.append_assoc, ih next, hjoin]
    simp

/-- The line of a refusal that tells a problem. -/
def DraftProblem.line : DraftProblem → String
  | noPorts => "  - default agent ports must not be empty"
  | portOutOfRange port => "  - default agent port out of range: " ++ toString port
  | repeatedPorts => "  - default agent ports must be unique"
  | fileSize => "  - max spec file size must be at least 1 byte"
  | retries => "  - min kubelet retries must be at least 1"

/-- The line of a problem is its wording behind a bullet. -/
theorem DraftProblem.line_eq (problem : DraftProblem) :
    problem.line = "  - " ++ problem.message := by
  cases problem with
  | portOutOfRange port =>
    rw [message_portOutOfRange, ← String.append_assoc]
    rfl
  | noPorts | repeatedPorts | fileSize | retries => decide

/-- The lines of a refusal: a heading, and one line for each problem. -/
def SettingsFault.lines (problems : List DraftProblem) : List (List Char) :=
  "Configuration validation failed:".toList :: problems.map fun problem => problem.line.toList

theorem SettingsFault.toList_message {problems : List DraftProblem} (h : problems ≠ []) :
    (unsound problems).message.toList = joinWith '\n' (lines problems) := by
  have hmessage : (unsound problems).message.toList =
      "Configuration validation failed:\n  - ".toList ++
        ("\n  - ".intercalate (problems.map DraftProblem.message)).toList := by
    rw [← String.toList_append]
    rfl
  have hheading : "Configuration validation failed:\n  - ".toList =
      "Configuration validation failed:".toList ++ ('\n' :: "  - ".toList) := rfl
  have hmark : "\n  - ".toList = '\n' :: "  - ".toList := rfl
  obtain ⟨problem, problems, rfl⟩ := List.exists_cons_of_ne_nil h
  rw [hmessage, String.toList_intercalate, hheading, hmark, List.append_assoc, List.map_map,
    List.map_cons, intercalate_bullets, lines, joinWith_cons (by simp)]
  simp only [List.map_cons, List.map_map, Function.comp_def, DraftProblem.line_eq,
    String.toList_append]

/-- The wording of a refusal has one line for each problem. -/
theorem SettingsFault.lines_message {problems : List DraftProblem} (h : problems ≠ []) :
    splitOn '\n' (unsound problems).message.toList = lines problems := by
  rw [toList_message h]
  apply splitOn_joinWith (List.cons_ne_nil _ _)
  intro line hline
  rcases List.mem_cons.1 hline with rfl | hline
  · decide
  · obtain ⟨problem, -, rfl⟩ := List.mem_map.1 hline
    rw [DraftProblem.line_eq, String.toList_append, List.mem_append]
    exact not_or.2 ⟨by decide, problem.newline_not_mem_message⟩

end ClusterPlan
