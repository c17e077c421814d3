import Mathlib.Computability.Language

/-!
# Patterns of texts

The patterns by which names are described: a character from given ranges, one pattern after another,
and a pattern a number of times. What a pattern describes is a language (`Pattern.language`), whole
texts only, so that a pattern is anchored at both ends.

Membership is stated for each way of building a pattern. The one that takes an argument is for runs
of characters (`Pattern.mem_language_run`): a text is a character of some ranges a number of times
iff all its characters are in the ranges and its length is such a number.
-/

namespace ClusterPlan.Text

/-- A pattern of texts. -/
inductive Pattern where
  /-- A character from one of some ranges, each given by its ends. -/
  | one (ranges : List (Char × Char))
  | seq (first second : Pattern)
  /-- A pattern at least and, if there is a limit, at most so many times. -/
  | repeated (least : Nat) (most : Option Nat) (item : Pattern)

namespace Pattern

/-- A pattern that may be left out. -/
def optional (p : Pattern) : Pattern := repeated 0 (some 1) p

/-- A pattern any number of times. -/
def star (p : Pattern) : Pattern := repeated 0 none p

/-- A pattern at least once. -/
def plus (p : Pattern) : Pattern := repeated 1 none p

/-- A given character. -/
def only (c : Char) : Pattern := one [(c, c)]

/-- The character lies in one of the ranges. -/
def InRanges (ranges : List (Char × Char)) (c : Char) : Prop :=
  ∃ range ∈ ranges, range.1 ≤ c ∧ c ≤ range.2

@[simp]
theorem inRanges_nil {c : Char} : ¬ InRanges [] c := by simp [InRanges]

/-- A character is looked for in one range after the other. -/
@[simp]
theorem inRanges_cons {low high c : Char} {ranges : List (Char × Char)} :
    InRanges ((low, high) :: ranges) c ↔ (low ≤ c ∧ c ≤ high) ∨ InRanges ranges c := by
  simp [InRanges]

/-- A range whose ends are equal has one character. -/
@[simp]
theorem le_and_le_self {c d : Char} : c ≤ d ∧ d ≤ c ↔ d = c := by
  constructor
  · exact fun h => Char.le_antisymm h.2 h.1
  · rintro rfl
    exact ⟨Char.le_refl d, Char.le_refl d⟩

/-- The texts that a pattern describes. -/
def language : Pattern → Language Char
  | one ranges => {cs | ∃ c, InRanges ranges c ∧ cs = [c]}
  | seq first second => first.language * second.language
  | repeated least most item =>
    {cs | ∃ n, least ≤ n ∧ (∀ m ∈ most, n ≤ m) ∧ cs ∈ item.language ^ n}

variable {p q : Pattern} {ranges : List (Char × Char)} {least : Nat} {most : Option Nat}
  {cs : List Char}

/-- A single character of the ranges. -/
theorem mem_language_one : cs ∈ (one ranges).language ↔ ∃ c, InRanges ranges c ∧ cs = [c] :=
  Iff.rfl

theorem mem_language_only {c : Char} : cs ∈ (only c).language ↔ cs = [c] := by
  simp [only, mem_language_one]

/-- A text of the first pattern, and after it one of the second. -/
theorem mem_language_seq :
    cs ∈ (seq p q).language ↔ ∃ as ∈ p.language, ∃ bs ∈ q.language, cs = as ++ bs := by
  simp only [language, Language.mem_mul, eq_comm]

/-- A text that falls into pieces, as many as are allowed, each of which the pattern describes. -/
theorem mem_language_repeated :
    cs ∈ (repeated least most p).language ↔
      ∃ pieces : List (List Char), cs = pieces.flatten ∧ least ≤ pieces.length ∧
        (∀ m ∈ most, pieces.length ≤ m) ∧ ∀ piece ∈ pieces, piece ∈ p.language := by
  constructor
  · rintro ⟨n, hleast, hmost, hcs⟩
    obtain ⟨pieces, hpieces, rfl, hmem⟩ := Language.mem_pow.1 hcs
    exact ⟨pieces, hpieces, hleast, hmost, hmem⟩
  · rintro ⟨pieces, hpieces, hleast, hmost, hmem⟩
    exact ⟨pieces.length, hleast, hmost, Language.mem_pow.2 ⟨pieces, hpieces, rfl, hmem⟩⟩

/-- Nothing, or a text of the pattern. -/
theorem mem_language_optional : cs ∈ (optional p).language ↔ cs = [] ∨ cs ∈ p.language := by
  constructor
  · rintro ⟨n, -, hmost, hcs⟩
    rcases Nat.le_one_iff_eq_zero_or_eq_one.1 (hmost 1 rfl) with rfl | rfl
    · exact .inl (by simpa using hcs)
    · exact .inr (by simpa using hcs)
  · rintro (rfl | hcs)
    · exact ⟨0, le_refl 0, by simp, by simp⟩
    · exact ⟨1, Nat.zero_le 1, by simp, by simpa using hcs⟩

/-- A text that falls into pieces which the pattern describes. -/
theorem mem_language_star :
    cs ∈ (star p).language ↔
      ∃ pieces : List (List Char), cs = pieces.flatten ∧ ∀ piece ∈ pieces, piece ∈ p.language := by
  rw [star, mem_language_repeated]
  simp

/-! ## Runs of characters -/

/-- As many characters of the ranges as the power says. -/
theorem mem_language_one_pow {n : Nat} :
    cs ∈ (one ranges).language ^ n ↔ cs.length = n ∧ ∀ c ∈ cs, InRanges ranges c := by
  induction n generalizing cs with
  | zero =>
    rw [pow_zero, Language.mem_one, List.length_eq_zero_iff]
    exact ⟨fun h => ⟨h, by simp [h]⟩, And.left⟩
  | succ n ih =>
    rw [pow_succ', Language.mem_mul]
    constructor
    · rintro ⟨_, ⟨c, hc, rfl⟩, rest, hrest, rfl⟩
      obtain ⟨rfl, hall⟩ := ih.1 hrest
      exact ⟨by simp, by simpa using ⟨hc, hall⟩⟩
    · rintro ⟨hlength, hall⟩
      cases cs with
      | nil => cases hlength
      | cons c rest =>
        obtain ⟨hc, hrest⟩ := List.forall_mem_cons.1 hall
        exact ⟨[c], ⟨c, hc, rfl⟩, rest, ih.2 ⟨Nat.succ.inj hlength, hrest⟩, rfl⟩

/-- A run of characters. -/
theorem mem_language_run :
    cs ∈ (repeated least most (one ranges)).language ↔
      least ≤ cs.length ∧ (∀ m ∈ most, cs.length ≤ m) ∧ ∀ c ∈ cs, InRanges ranges c := by
  constructor
  · rintro ⟨n, hleast, hmost, hcs⟩
    obtain ⟨rfl, hall⟩ := mem_language_one_pow.1 hcs
    exact ⟨hleast, hmost, hall⟩
  · rintro ⟨hleast, hmost, hall⟩
    exact ⟨cs.length, hleast, hmost, mem_language_one_pow.2 ⟨rfl, hall⟩⟩

/-- At least one character, and all of them of the ranges. -/
theorem mem_language_plus :
    cs ∈ (plus (one ranges)).language ↔ cs ≠ [] ∧ ∀ c ∈ cs, InRanges ranges c := by
  rw [plus, mem_language_run, Nat.one_le_iff_ne_zero, Ne, List.length_eq_zero_iff]
  simp

end Pattern

end ClusterPlan.Text
