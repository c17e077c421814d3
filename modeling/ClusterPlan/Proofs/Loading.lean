import ClusterPlan.Definition
import ClusterPlan.Proofs.JsonNumeral
import ClusterPlan.Proofs.YamlValue

/-!
# What loading a definition answers

Loading a definition gives a plan or a fault, and every fault but two has a diagnostic. One of them
is that the system refuses to tell whether there is a file at all. The other is that the file holds
a value which is written correctly and which nobody can read: a date that does not exist, an integer
with too many digits (`Definition.load_answers`). No other file, be it missing, a directory, too
large, no text or no document, is left without a plan or a diagnostic.
-/

namespace ClusterPlan

namespace Definition

variable {source : String} {limit : Int} {path : Path}

/-- A text that is written in the notation its path tells has a value that nobody can read. -/
def HasImpossibleValue (path : Path) (cs : List Char) : Prop :=
  if path.isYaml then Yaml.HasImpossibleValue cs else HasRun Numeral.digitLimit cs

/-- Nothing says why a file is refused: it is out of reach, or it is a text within the limit that
has a value which nobody can read. -/
inductive LeftUnexplained (limit : Int) (path : Path) : File → LoadFault → Prop where
  | unreachable : LeftUnexplained limit path .unreachable .unreachable
  | impossibleValue {bytes : ByteArray} {text : String} (hsize : bytes.size ≤ limit)
      (htext : String.fromUTF8? bytes = some text)
      (hvalue : HasImpossibleValue path (uniformLines text.toList)) :
      LeftUnexplained limit path (.content bytes) .impossibleValue

/-- An outcome is a result or a fault that has a diagnostic, except for certain faults. -/
abbrev Explains {α : Type} (spared : LoadFault → Prop) (outcome : Except LoadFault α) : Prop :=
  Meets (fun fault => (∃ message, fault.message? = some message) ∨ spared fault) (fun _ => True)
    outcome

/-- A YAML text is a document, or it is malformed, or it has a value that nobody can read. -/
theorem readYaml_explains (cs : List Char) :
    Explains (fun fault => fault = .impossibleValue ∧ Yaml.HasImpossibleValue cs)
      (readYaml source cs) := by
  unfold readYaml
  split
  · exact .ok trivial
  · exact .error (.inl ⟨_, rfl⟩)
  · next hread => exact .error (.inr ⟨rfl, Yaml.hasImpossibleValue_of_read hread⟩)

/-- A JSON text is a document, or it is malformed, or it has a number with too many digits. -/
theorem readJson_explains (cs : List Char) :
    Explains (fun fault => fault = .impossibleValue ∧ HasRun Numeral.digitLimit cs)
      (readJson source cs) := by
  unfold readJson
  split
  · exact .ok trivial
  · exact .error (.inl ⟨_, rfl⟩)
  · next hread => exact .error (.inr ⟨rfl, Json.hasRun_of_overlong hread⟩)

/-- The content of a file is a document in the notation that its path tells. -/
theorem readContent_explains {bytes : ByteArray} (hsize : bytes.size ≤ limit) :
    Explains (LeftUnexplained limit path (.content bytes)) (readContent path bytes) := by
  unfold readContent
  split
  · exact .error (.inl ⟨_, rfl⟩)
  · next text htext =>
    have hleft {cause : Prop}
        (hcause : cause → HasImpossibleValue path (uniformLines text.toList)) (fault : LoadFault)
        (h : (∃ message, fault.message? = some message) ∨ fault = .impossibleValue ∧ cause) :
        (∃ message, fault.message? = some message) ∨
          LeftUnexplained limit path (.content bytes) fault := by
      rcases h with h | ⟨rfl, hvalue⟩
      · exact .inl h
      · exact .inr (.impossibleValue hsize htext (hcause hvalue))
    dsimp only
    split
    · next hyaml =>
      refine (readYaml_explains _).mono (hleft ?_) fun _ h => h
      rw [HasImpossibleValue, if_pos hyaml]
      exact id
    · next hjson =>
      refine (readJson_explains _).mono (hleft ?_) fun _ h => h
      rw [HasImpossibleValue, if_neg hjson]
      exact id

/-- Whatever document there is, it is a plan or there is something to say about it. -/
theorem read_explains {spared : LoadFault → Prop} (d : Document) :
    Explains spared (read source d) := by
  unfold read
  extract_lets plan
  have hplan : ∀ d, Explains spared (plan d) := by
    intro d
    unfold plan
    split
    · exact .ok trivial
    · exact .error (.inl ⟨_, rfl⟩)
  split
  · split
    · exact hplan _
    · exact hplan _
    · exact .error (.inl ⟨_, rfl⟩)
  · exact .error (.inl ⟨_, rfl⟩)

/-- A file that is not too large is within the limit. -/
theorem checkSize_meets {spared : LoadFault → Prop} (size : Nat) :
    Meets (fun fault => (∃ message, fault.message? = some message) ∨ spared fault)
      (fun _ => size ≤ limit) (checkSize limit path size) := by
  unfold checkSize
  split
  · exact .error (.inl ⟨_, rfl⟩)
  · next hsize => exact .ok (Int.not_lt.1 hsize)

/-- Every file is a plan or has a diagnostic, save for the two kinds of file that are left
unexplained. -/
theorem load_explains (file : File) :
    Explains (LeftUnexplained limit path file) (load limit path file) := by
  cases file with
  | missing => exact .error (.inl ⟨_, rfl⟩)
  | unreachable => exact .error (.inr .unreachable)
  | unmeasured reason => exact .error (.inl ⟨_, rfl⟩)
  | unreadable size reason => exact .bind (checkSize_meets size) fun _ _ => .error (.inl ⟨_, rfl⟩)
  | content bytes =>
    refine .bind (checkSize_meets bytes.size) fun _ hsize => ?_
    exact .bind (readContent_explains hsize) fun d _ => read_explains d

/-- **What loading answers.** A file is loaded as a plan, or it is refused with a diagnostic, or it
is refused without one, and then it is out of reach, or it is a text within the limit that has a
value which nobody can read. -/
theorem load_answers (limit : Int) (path : Path) (file : File) :
    (∃ p, load limit path file = .ok p) ∨
      (∃ fault message, load limit path file = .error fault ∧ fault.message? = some message) ∨
      ∃ fault, load limit path file = .error fault ∧ LeftUnexplained limit path file fault := by
  have hload : Explains (LeftUnexplained limit path file) _ := load_explains file
  cases h : load limit path file with
  | ok p => exact .inl ⟨p, rfl⟩
  | error fault =>
    rcases hload.of_error h with ⟨message, hmessage⟩ | hleft
    · exact .inr (.inl ⟨fault, message, rfl, hmessage⟩)
    · exact .inr (.inr ⟨fault, rfl, hleft⟩)

/-- A date in a thirteenth month is such a value: the file is refused, and nothing says why. -/
theorem load_thirteenthMonth :
    let path := Path.ofText "cluster.yaml"
    let file := File.content "a: 2018-13-45\n".toUTF8
    ∃ fault, load 1048576 path file = .error fault ∧ fault.message? = none := by
  intro path file
  have hread : (match load 1048576 path file with
      | .error fault => fault.message?.isNone
      | .ok _ => false) = true := by
    decide +kernel
  cases h : load 1048576 path file with
  | ok p =>
    rw [h] at hread
    cases hread
  | error fault =>
    rw [h] at hread
    exact ⟨fault, rfl, Option.isNone_iff_eq_none.1 hread⟩

end Definition

end ClusterPlan
