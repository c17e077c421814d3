import ClusterPlan.Proofs.Pattern
import ClusterPlan.Proofs.Verdict
import ClusterPlan.Rules.Name

/-!
# The grammars of names and labels

Names of pools, public names and the keys and values of labels are described three times over. The
grammars (`PoolName`, `DnsName`, `Segment`, `Domain`) say which characters a name has, how many of
them, and which of them may stand at its ends. The patterns are regular expressions for the same
texts. The recognisers are what the rules ask.

The three agree for every text. The recognisers of single names count characters and look at the
ends, which is what their grammars say. The key of a label takes an argument: the recogniser cuts it
at its first slash and the domain at every dot, while the pattern and the grammar only ask for some
way to cut it. As neither a domain nor a segment has a slash in it, and no run of a domain a dot,
there is no other way.

`names_decided` states what the rules make of this.
-/

namespace ClusterPlan.Identifier

open ClusterPlan.Text

/-! ## Characters -/

/-- An ASCII lower-case letter. -/
def IsLower (c : Char) : Prop := 'a' ≤ c ∧ c ≤ 'z'

/-- An ASCII letter. -/
def IsLetter (c : Char) : Prop := ('A' ≤ c ∧ c ≤ 'Z') ∨ ('a' ≤ c ∧ c ≤ 'z')

/-- An ASCII digit. -/
def IsDigit (c : Char) : Prop := '0' ≤ c ∧ c ≤ '9'

instance (c : Char) : Decidable (IsLower c) := inferInstanceAs (Decidable (_ ∧ _))

instance (c : Char) : Decidable (IsLetter c) := inferInstanceAs (Decidable (_ ∨ _))

instance (c : Char) : Decidable (IsDigit c) := inferInstanceAs (Decidable (_ ∧ _))

section characters

variable {c : Char}

theorem isLower_iff : c.isLower = true ↔ IsLower c :=
  Bool.and_eq_true_iff.trans (and_congr decide_eq_true_iff decide_eq_true_iff)

theorem isAlpha_iff : c.isAlpha = true ↔ IsLetter c :=
  Bool.or_eq_true_iff.trans (or_congr decide_eq_true_iff isLower_iff)

theorem isDigit_iff : c.isDigit = true ↔ IsDigit c :=
  Bool.and_eq_true_iff.trans (and_congr decide_eq_true_iff decide_eq_true_iff)

theorem isLowerAlnum_iff : isLowerAlnum c = true ↔ IsLower c ∨ IsDigit c := by
  rw [isLowerAlnum, Bool.or_eq_true, isLower_iff, isDigit_iff]

theorem isAsciiAlnum_iff : isAsciiAlnum c = true ↔ IsLetter c ∨ IsDigit c := by
  rw [isAsciiAlnum, Bool.or_eq_true, isAlpha_iff, isDigit_iff]

theorem isDomainChar_iff : isDomainChar c = true ↔ IsLetter c ∨ IsDigit c ∨ c = '-' := by
  rw [isDomainChar, Bool.or_eq_true, isAsciiAlnum_iff, beq_iff_eq, or_assoc]

theorem isSegmentChar_iff :
    isSegmentChar c = true ↔ IsLetter c ∨ IsDigit c ∨ c = '-' ∨ c = '_' ∨ c = '.' := by
  simp only [isSegmentChar, Bool.or_eq_true, isAsciiAlnum_iff, beq_iff_eq, or_assoc]

/-- Of the characters of a domain all are letters or digits but the hyphen. -/
theorem letter_or_digit_iff (h : IsLetter c ∨ IsDigit c ∨ c = '-') :
    IsLetter c ∨ IsDigit c ↔ c ≠ '-' := by
  constructor
  · rintro hc rfl
    exact absurd hc (by decide)
  · intro hne
    rw [← or_assoc] at h
    exact h.resolve_right hne

/-- The characters of names and labels are ASCII characters and do not end lines. -/
theorem plain_of_char
    (h : IsLetter c ∨ IsDigit c ∨ c = '-' ∨ c = '_' ∨ c = '.' ∨ c = '/') :
    c.toNat < 128 ∧ c ≠ '\n' := by
  have hrange : '-' ≤ c ∧ c ≤ 'z' := by
    simp only [IsLetter, IsDigit, Char.le_def, UInt32.le_iff_toNat_le] at h ⊢
    rcases h with (⟨hlow, hhigh⟩ | ⟨hlow, hhigh⟩) | ⟨hlow, hhigh⟩ | rfl | rfl | rfl | rfl
    · exact ⟨le_trans (by decide) hlow, le_trans hhigh (by decide)⟩
    · exact ⟨le_trans (by decide) hlow, hhigh⟩
    · exact ⟨le_trans (by decide) hlow, le_trans hhigh (by decide)⟩
    all_goals decide
  constructor
  · exact Nat.lt_of_le_of_lt (UInt32.le_iff_toNat_le.1 hrange.2) (by decide)
  · rintro rfl
    exact absurd hrange.1 (by decide)

end characters

/-! ## Grammars -/

/-- Names of pools. -/
structure PoolName (cs : List Char) : Prop where
  long : 1 ≤ cs.length
  short : cs.length ≤ 12
  chars : ∀ c ∈ cs, IsLower c ∨ IsDigit c
  first : ∀ c ∈ cs.head?, IsLower c

/-- Public names. -/
structure DnsName (cs : List Char) : Prop where
  long : 3 ≤ cs.length
  short : cs.length ≤ 45
  chars : ∀ c ∈ cs, IsLetter c ∨ IsDigit c ∨ c = '-'
  first : ∀ c ∈ cs.head?, IsLetter c
  last : ∀ c ∈ cs.getLast?, c ≠ '-'

/-- Name segments. -/
structure Segment (cs : List Char) : Prop where
  long : 1 ≤ cs.length
  short : cs.length ≤ 63
  chars : ∀ c ∈ cs, IsLetter c ∨ IsDigit c ∨ c = '-' ∨ c = '_' ∨ c = '.'
  first : ∀ c ∈ cs.head?, IsLetter c ∨ IsDigit c
  last : ∀ c ∈ cs.getLast?, IsLetter c ∨ IsDigit c

/-- Runs of letters, digits and hyphens. -/
structure DomainRun (cs : List Char) : Prop where
  long : cs ≠ []
  chars : ∀ c ∈ cs, IsLetter c ∨ IsDigit c ∨ c = '-'

/-- Runs joined by dots. -/
def Domain (cs : List Char) : Prop :=
  ∃ runs, runs ≠ [] ∧ (∀ run ∈ runs, DomainRun run) ∧ cs = joinWith '.' runs

/-- Keys of labels: segments, and domains with a slash and a segment after them. There may be a
limit to the length of the domain. -/
def LabelKey (limit : Option Int) (cs : List Char) : Prop :=
  Segment cs ∨ ∃ domain name, cs = domain ++ '/' :: name ∧ Domain domain ∧
    (∀ most ∈ limit, (domain.length : Int) ≤ most) ∧ Segment name

/-! ## Recognisers -/

section recognisers

variable {s : String} {cs : List Char}

theorem isPoolName_iff : isPoolName s = true ↔ PoolName s.toList := by
  unfold isPoolName
  cases hs : s.toList with
  | nil => exact iff_of_false (by simp) fun h => absurd h.long (by simp)
  | cons c rest =>
    simp only [Bool.and_eq_true, List.all_eq_true, isLower_iff, isLowerAlnum_iff,
      decide_eq_true_eq]
    constructor
    · rintro ⟨⟨hfirst, hrest⟩, hlength⟩
      exact ⟨by simp, Nat.succ_le_succ hlength,
        List.forall_mem_cons.2 ⟨.inl hfirst, hrest⟩, by simpa using hfirst⟩
    · intro h
      exact ⟨⟨h.first c rfl, (List.forall_mem_cons.1 h.chars).2⟩, Nat.le_of_succ_le_succ h.short⟩

theorem isSegment_iff : isSegment cs = true ↔ Segment cs := by
  cases cs with
  | nil => exact iff_of_false (by simp [isSegment]) fun h => absurd h.long (by simp)
  | cons c rest =>
    have hlast := List.getLast?_eq_some_getLast (List.cons_ne_nil c rest)
    simp only [isSegment, Bool.and_eq_true, List.all_eq_true, isSegmentChar_iff,
      decide_eq_true_eq, hlast, List.head?_cons, Option.any_some, isAsciiAlnum_iff]
    constructor
    · rintro ⟨⟨⟨hlength, hchars⟩, hfirst⟩, hend⟩
      exact ⟨by simp, hlength, hchars, by simpa using hfirst, by simpa [hlast] using hend⟩
    · intro h
      exact ⟨⟨⟨h.short, h.chars⟩, h.first c rfl⟩, h.last _ hlast⟩

theorem isDnsName_iff : isDnsName s = true ↔ DnsName s.toList := by
  unfold isDnsName
  cases hs : s.toList with
  | nil => exact iff_of_false (by simp) fun h => absurd h.long (by simp)
  | cons c rest =>
    have hlast := List.getLast?_eq_some_getLast (List.cons_ne_nil c rest)
    simp only [Bool.and_eq_true, List.all_eq_true, isDomainChar_iff, decide_eq_true_eq, hlast,
      List.head?_cons, Option.any_some, isAlpha_iff, isAsciiAlnum_iff]
    constructor
    · rintro ⟨⟨⟨⟨hlong, hshort⟩, hchars⟩, hfirst⟩, hend⟩
      have hne := (letter_or_digit_iff (hchars _ (List.getLast_mem _))).1 hend
      exact ⟨hlong, hshort, hchars, by simpa using hfirst, by simpa [hlast] using hne⟩
    · intro h
      have hend := (letter_or_digit_iff (h.chars _ (List.getLast_mem _))).2 (h.last _ hlast)
      exact ⟨⟨⟨⟨h.long, h.short⟩, h.chars⟩, h.first c rfl⟩, hend⟩

/-- There is no dot in a run. -/
theorem DomainRun.dot_not_mem (h : DomainRun cs) : '.' ∉ cs :=
  fun hmem => absurd (h.chars '.' hmem) (by decide)

theorem isDomain_iff : isDomain cs = true ↔ Domain cs := by
  have hrun : ∀ run : List Char,
      (!run.isEmpty && run.all isDomainChar) = true ↔ DomainRun run := by
    intro run
    simp only [Bool.and_eq_true, Bool.not_eq_true', List.isEmpty_eq_false_iff, List.all_eq_true,
      isDomainChar_iff]
    exact ⟨fun ⟨hlong, hchars⟩ => ⟨hlong, hchars⟩, fun h => ⟨h.long, h.chars⟩⟩
  simp only [isDomain, List.all_eq_true, hrun]
  constructor
  · intro h
    exact ⟨splitOn '.' cs, splitOn_ne_nil '.' cs, h, (joinWith_splitOn '.' cs).symm⟩
  · rintro ⟨runs, hne, hruns, rfl⟩
    rwa [splitOn_joinWith hne fun run hrun => (hruns run hrun).dot_not_mem]

/-- There is no slash in a segment. -/
theorem Segment.slash_not_mem (h : Segment cs) : '/' ∉ cs :=
  fun hmem => absurd (h.chars '/' hmem) (by decide)

/-- The characters of a domain. -/
theorem Domain.chars (h : Domain cs) :
    ∀ c ∈ cs, IsLetter c ∨ IsDigit c ∨ c = '-' ∨ c = '.' := by
  obtain ⟨runs, -, hruns, rfl⟩ := h
  intro c hc
  rcases mem_joinWith hc with rfl | ⟨run, hrun, hc⟩
  · simp
  · have := (hruns run hrun).chars c hc
    tauto

/-- There is no slash in a domain. -/
theorem Domain.slash_not_mem (h : Domain cs) : '/' ∉ cs :=
  fun hmem => absurd (h.chars '/' hmem) (by decide)

/-- The key of a label is cut at the slash between its domain and its name. -/
theorem cut?_slash {domain name : List Char} (h : Domain domain) :
    cut? '/' (domain ++ '/' :: name) = some (domain, name) :=
  cut?_eq_some.2 ⟨rfl, h.slash_not_mem⟩

theorem isLabelKey_iff : isLabelKey s = true ↔ LabelKey none s.toList := by
  unfold isLabelKey LabelKey
  cases hcut : cut? '/' s.toList with
  | none =>
    rw [isSegment_iff]
    refine (or_iff_left ?_).symm
    rintro ⟨domain, name, heq, hdomain, -, -⟩
    rw [heq, cut?_slash hdomain] at hcut
    cases hcut
  | some parts =>
    obtain ⟨before, after⟩ := parts
    obtain ⟨heq, -⟩ := cut?_eq_some.1 hcut
    simp only [Bool.and_eq_true, isDomain_iff, isSegment_iff]
    constructor
    · rintro ⟨hdomain, hname⟩
      exact .inr ⟨before, after, heq, hdomain, by simp, hname⟩
    · rintro (hsegment | ⟨domain, name, heq', hdomain, -, hname⟩)
      · exact absurd (heq ▸ by simp) hsegment.slash_not_mem
      · rw [heq', cut?_slash hdomain] at hcut
        obtain ⟨rfl, rfl⟩ := Prod.mk.inj (Option.some.inj hcut)
        exact ⟨hdomain, hname⟩

/-- The limit is asked of the domain that the key has. -/
theorem labelKey_limit_iff {limit : Int} :
    (LabelKey none s.toList ∧ ∀ length ∈ domainLength? s, (length : Int) ≤ limit) ↔
      LabelKey (some limit) s.toList := by
  constructor
  · rintro ⟨hsegment | ⟨domain, name, heq, hdomain, -, hname⟩, hlimit⟩
    · exact .inl hsegment
    · refine .inr ⟨domain, name, heq, hdomain, ?_, hname⟩
      simpa [domainLength?, heq, cut?_slash hdomain] using hlimit
  · rintro (hsegment | ⟨domain, name, heq, hdomain, hlimit, hname⟩)
    · refine ⟨.inl hsegment, ?_⟩
      simp [domainLength?, cut?_eq_none.2 hsegment.slash_not_mem]
    · refine ⟨.inr ⟨domain, name, heq, hdomain, by simp, hname⟩, ?_⟩
      simpa [domainLength?, heq, cut?_slash hdomain] using hlimit

end recognisers

/-! ## Patterns -/

/-- `[a-z][a-z0-9]{0,11}` -/
def poolNamePattern : Pattern :=
  .seq (.one [('a', 'z')]) (.repeated 0 (some 11) (.one [('a', 'z'), ('0', '9')]))

/-- `[A-Za-z0-9-]` -/
def domainRanges : List (Char × Char) := [('A', 'Z'), ('a', 'z'), ('0', '9'), ('-', '-')]

/-- `[A-Za-z0-9]` -/
def alnumRanges : List (Char × Char) := [('A', 'Z'), ('a', 'z'), ('0', '9')]

/-- `[-A-Za-z0-9_.]` -/
def segmentRanges : List (Char × Char) :=
  [('-', '-'), ('A', 'Z'), ('a', 'z'), ('0', '9'), ('_', '_'), ('.', '.')]

/-- `[A-Za-z][A-Za-z0-9-]{1,43}[A-Za-z0-9]` -/
def dnsNamePattern : Pattern :=
  .seq (.one [('A', 'Z'), ('a', 'z')])
    (.seq (.repeated 1 (some 43) (.one domainRanges)) (.one alnumRanges))

/-- `([A-Za-z0-9][-A-Za-z0-9_.]{0,61})?[A-Za-z0-9]` -/
def segmentPattern : Pattern :=
  .seq (.optional (.seq (.one alnumRanges) (.repeated 0 (some 61) (.one segmentRanges))))
    (.one alnumRanges)

/-- `([A-Za-z0-9-]+[.])*[A-Za-z0-9-]+` -/
def domainPattern : Pattern :=
  .seq (.star (.seq (.plus (.one domainRanges)) (.only '.'))) (.plus (.one domainRanges))

/-- `(([A-Za-z0-9-]+[.])*[A-Za-z0-9-]+[/])?([A-Za-z0-9][-A-Za-z0-9_.]{0,61})?[A-Za-z0-9]` -/
def labelKeyPattern : Pattern :=
  .seq (.optional (.seq domainPattern (.only '/'))) segmentPattern

section patterns

open Pattern

variable {c : Char} {cs : List Char}

theorem inRanges_alnum : InRanges alnumRanges c ↔ IsLetter c ∨ IsDigit c := by
  simp [alnumRanges, IsLetter, IsDigit, or_assoc]

theorem inRanges_domain : InRanges domainRanges c ↔ IsLetter c ∨ IsDigit c ∨ c = '-' := by
  simp [domainRanges, IsLetter, IsDigit, or_assoc]

theorem inRanges_segment :
    InRanges segmentRanges c ↔ IsLetter c ∨ IsDigit c ∨ c = '-' ∨ c = '_' ∨ c = '.' := by
  simp only [segmentRanges, inRanges_cons, le_and_le_self, inRanges_nil, or_false, IsLetter,
    IsDigit]
  tauto

theorem mem_poolNamePattern : cs ∈ poolNamePattern.language ↔ PoolName cs := by
  simp only [poolNamePattern, mem_language_seq, mem_language_one, mem_language_run, inRanges_cons,
    inRanges_nil, or_false, Option.mem_some_iff, forall_eq']
  constructor
  · rintro ⟨_, ⟨c, hc, rfl⟩, rest, ⟨-, hlength, hrest⟩, rfl⟩
    refine ⟨by simp, Nat.succ_le_succ hlength, ?_, by simpa [IsLower] using hc⟩
    exact List.forall_mem_cons.2 ⟨.inl hc, hrest⟩
  · intro h
    cases cs with
    | nil => exact absurd h.long (by simp)
    | cons c rest =>
      have hlength := h.short
      rw [List.length_cons] at hlength
      refine ⟨[c], ⟨c, h.first c rfl, rfl⟩, rest, ⟨Nat.zero_le _, by omega, ?_⟩, rfl⟩
      exact (List.forall_mem_cons.1 h.chars).2

/-- What the last character of a text is like. -/
theorem forall_mem_getLast?_concat {front : List Char} {z : Char} {p : Char → Prop} :
    (∀ c ∈ (front ++ [z]).getLast?, p c) ↔ p z := by
  simp

theorem mem_segmentPattern : cs ∈ segmentPattern.language ↔ Segment cs := by
  have hchar : ∀ c, IsLetter c ∨ IsDigit c →
      IsLetter c ∨ IsDigit c ∨ c = '-' ∨ c = '_' ∨ c = '.' := by
    intro c hc
    rw [← or_assoc]
    exact .inl hc
  simp only [segmentPattern, mem_language_seq, mem_language_optional, mem_language_one,
    mem_language_run, inRanges_alnum, inRanges_segment, Option.mem_some_iff, forall_eq']
  constructor
  · rintro ⟨_, rfl | ⟨_, ⟨a, ha, rfl⟩, mid, ⟨-, hlength, hmid⟩, rfl⟩, _, ⟨z, hz, rfl⟩, rfl⟩
    · exact ⟨by simp, by simp, by simpa using hchar z hz, by simpa using hz, by simpa using hz⟩
    · have hshort : ([a] ++ mid ++ [z]).length ≤ 63 := by
        simp only [List.length_append, List.length_cons, List.length_nil]
        omega
      refine ⟨by simp, hshort, ?_, by simpa using ha, forall_mem_getLast?_concat.2 hz⟩
      simp only [List.mem_append, List.mem_singleton]
      rintro c ((rfl | hc) | rfl)
      · exact hchar c ha
      · exact hmid c hc
      · exact hchar c hz
  · intro h
    rcases List.eq_nil_or_concat' cs with rfl | ⟨front, z, rfl⟩
    · exact absurd h.long (by simp)
    · have hz := forall_mem_getLast?_concat.1 h.last
      cases front with
      | nil => exact ⟨[], .inl rfl, [z], ⟨z, hz, rfl⟩, rfl⟩
      | cons a mid =>
        have hlength := h.short
        have ha := h.first a (by simp)
        have hmid : ∀ c ∈ mid, c ∈ a :: mid ++ [z] := fun c hc => by simp [hc]
        simp only [List.length_append, List.length_cons, List.length_nil] at hlength
        refine ⟨a :: mid, .inr ⟨[a], ⟨a, ha, rfl⟩, mid, ⟨Nat.zero_le _, by omega, ?_⟩, rfl⟩,
          [z], ⟨z, hz, rfl⟩, rfl⟩
        exact fun c hc => h.chars c (hmid c hc)

theorem mem_dnsNamePattern : cs ∈ dnsNamePattern.language ↔ DnsName cs := by
  have hletter : ∀ c, InRanges [('A', 'Z'), ('a', 'z')] c ↔ IsLetter c := by
    simp [IsLetter]
  simp only [dnsNamePattern, mem_language_seq, mem_language_one, mem_language_run, hletter,
    inRanges_alnum, inRanges_domain, Option.mem_some_iff, forall_eq']
  constructor
  · rintro ⟨_, ⟨a, ha, rfl⟩, _, ⟨mid, ⟨hleast, hmost, hmid⟩, _, ⟨z, hz, rfl⟩, rfl⟩, rfl⟩
    have hzchar : IsLetter z ∨ IsDigit z ∨ z = '-' := by
      rw [← or_assoc]
      exact .inl hz
    have hlength : ([a] ++ (mid ++ [z])).length = mid.length + 2 := by simp
    refine ⟨by omega, by omega, ?_, by simpa using ha, ?_⟩
    · simp only [List.mem_append, List.mem_singleton]
      rintro c (rfl | hc | rfl)
      · exact .inl ha
      · exact hmid c hc
      · exact hzchar
    · rw [← List.append_assoc, forall_mem_getLast?_concat]
      exact (letter_or_digit_iff hzchar).1 hz
  · intro h
    rcases List.eq_nil_or_concat' cs with rfl | ⟨front, z, rfl⟩
    · exact absurd h.long (by simp)
    · have hne : z ≠ '-' := h.last z (by simp)
      have hz := (letter_or_digit_iff (h.chars z (by simp))).2 hne
      have hlong := h.long
      have hshort := h.short
      rw [List.length_append, List.length_singleton] at hlong hshort
      cases front with
      | nil => exact absurd hlong (by simp)
      | cons a mid =>
        have ha := h.first a (by simp)
        have hmid : ∀ c ∈ mid, c ∈ a :: mid ++ [z] := fun c hc => by simp [hc]
        rw [List.length_cons] at hlong hshort
        refine ⟨[a], ⟨a, ha, rfl⟩, mid ++ [z], ⟨mid, ⟨by omega, by omega, ?_⟩, [z], ⟨z, hz, rfl⟩,
          rfl⟩, rfl⟩
        exact fun c hc => h.chars c (hmid c hc)

theorem mem_domainRun : cs ∈ (plus (one domainRanges)).language ↔ DomainRun cs := by
  simp only [mem_language_plus, inRanges_domain]
  exact ⟨fun ⟨hlong, hchars⟩ => ⟨hlong, hchars⟩, fun h => ⟨h.long, h.chars⟩⟩

theorem Domain.single (h : DomainRun cs) : Domain cs :=
  ⟨[cs], by simp, by simpa using h, rfl⟩

theorem Domain.cons {run : List Char} (hrun : DomainRun run) (h : Domain cs) :
    Domain (run ++ '.' :: cs) := by
  obtain ⟨runs, hne, hruns, rfl⟩ := h
  exact ⟨run :: runs, by simp, List.forall_mem_cons.2 ⟨hrun, hruns⟩, (joinWith_cons hne).symm⟩

theorem mem_domainPattern : cs ∈ domainPattern.language ↔ Domain cs := by
  simp only [domainPattern, mem_language_seq, mem_language_star, mem_language_only, mem_domainRun]
  constructor
  · rintro ⟨_, ⟨pieces, rfl, hpieces⟩, last, hlast, rfl⟩
    induction pieces with
    | nil => exact .single hlast
    | cons piece pieces ih =>
      obtain ⟨⟨run, hrun, _, rfl, rfl⟩, hrest⟩ := List.forall_mem_cons.1 hpieces
      simpa using Domain.cons hrun (ih hrest)
  · rintro ⟨runs, hne, hruns, rfl⟩
    induction runs with
    | nil => exact absurd rfl hne
    | cons run runs ih =>
      obtain ⟨hrun, hrest⟩ := List.forall_mem_cons.1 hruns
      by_cases hlast : runs = []
      · subst hlast
        exact ⟨[], ⟨[], rfl, by simp⟩, run, hrun, rfl⟩
      · obtain ⟨_, ⟨pieces, rfl, hpieces⟩, last, hend, hjoin⟩ := ih hlast hrest
        refine ⟨((run ++ ['.']) :: pieces).flatten, ⟨_, rfl, ?_⟩, last, hend, ?_⟩
        · exact List.forall_mem_cons.2 ⟨⟨run, hrun, _, rfl, rfl⟩, hpieces⟩
        · rw [joinWith_cons hlast, hjoin]
          simp

theorem mem_labelKeyPattern : cs ∈ labelKeyPattern.language ↔ LabelKey none cs := by
  simp only [labelKeyPattern, mem_language_seq, mem_language_optional, mem_language_only,
    mem_domainPattern, mem_segmentPattern]
  constructor
  · rintro ⟨_, rfl | ⟨domain, hdomain, _, rfl, rfl⟩, name, hname, rfl⟩
    · exact .inl hname
    · exact .inr ⟨domain, name, by simp, hdomain, by simp, hname⟩
  · rintro (hsegment | ⟨domain, name, rfl, hdomain, -, hname⟩)
    · exact ⟨[], .inl rfl, cs, hsegment, rfl⟩
    · exact ⟨domain ++ ['/'], .inr ⟨domain, hdomain, _, rfl, rfl⟩, name, hname, by simp⟩

end patterns

end ClusterPlan.Identifier

namespace ClusterPlan

open ClusterPlan.Identifier

/-! ## Rules -/

/-- A rule for a text holds iff the text belongs to a grammar. Then all its characters are ASCII
characters and there is no end of a line among them; otherwise the text is malformed, except for
certain faults. -/
structure Decides (s : String) (spared : Fault → Prop) (rule : Verdict) (grammar : Prop) :
    Prop where
  accepts : rule = .ok () ↔ grammar
  plain : rule = .ok () → ∀ c ∈ s.toList, c.toNat < 128 ∧ c ≠ '\n'
  rejects : ∀ fault, rule = .error fault → fault.kind = .malformed ∨ spared fault

/-- The domain of a label's key is longer than a limit that is too long to be written, so that no
diagnostic can quote the limit. -/
structure LimitUnstated (limit : Int) (key : String) (fault : Fault) : Prop where
  fault_eq : fault = .malformed (.labelDomain key limit)
  key : LabelKey none key.toList
  long : Numeral.isWritable limit = false

section rules

variable {s : String} {limit : Int} {spared : Fault → Prop} {rule : Verdict} {grammar : Prop}

theorem Decides.of_chars (haccepts : rule = .ok () ↔ grammar)
    (hchars : grammar → ∀ c ∈ s.toList,
      IsLetter c ∨ IsDigit c ∨ c = '-' ∨ c = '_' ∨ c = '.' ∨ c = '/')
    (hrejects : Meets (fun fault => fault.kind = .malformed ∨ spared fault) (fun _ => True) rule) :
    Decides s spared rule grammar :=
  ⟨haccepts, fun h c hc => plain_of_char (hchars (haccepts.1 h) c hc), fun _ => hrejects.of_error⟩

theorem decides_checkPoolName : Decides s spared (checkPoolName s) (PoolName s.toList) := by
  refine .of_chars ?_ (fun h c hc => ?_) (.refuse (.inl rfl))
  · rw [checkPoolName, refuse_eq_ok, Bool.not_eq_false']
    exact isPoolName_iff
  · exact (h.chars c hc).imp .inr .inl

theorem decides_checkDnsName : Decides s spared (checkDnsName s) (DnsName s.toList) := by
  refine .of_chars ?_ (fun h c hc => ?_) (.refuse (.inl rfl))
  · rw [checkDnsName, refuse_eq_ok, Bool.not_eq_false']
    exact isDnsName_iff
  · exact (h.chars c hc).imp_right fun hc => hc.imp_right .inl

theorem Identifier.Segment.chars_of_label {cs : List Char} (h : Segment cs) :
    ∀ c ∈ cs, IsLetter c ∨ IsDigit c ∨ c = '-' ∨ c = '_' ∨ c = '.' ∨ c = '/' := by
  intro c hc
  have hchar := h.chars c hc
  tauto

theorem decides_checkLabelValue :
    Decides s spared (checkLabelValue s) (s = "" ∨ Segment s.toList) := by
  refine .of_chars ?_ ?_ (.refuse (.inl rfl))
  · have hvalue : Patterns.standard.labelValue s = true ↔ Segment s.toList := isSegment_iff
    rw [← hvalue, checkLabelValue, refuse_eq_ok]
    by_cases hempty : s = ""
    · simp [hempty]
    · simp [hempty]
  · rintro (rfl | h)
    · simp
    · exact h.chars_of_label

theorem decides_checkLabelKey :
    Decides s (LimitUnstated limit s) (checkLabelKey limit s)
      (LabelKey (some limit) s.toList) := by
  have hkey : Patterns.standard.labelKey s = true ↔ LabelKey none s.toList := isLabelKey_iff
  refine .of_chars ?_ ?_ ?_
  · rw [← labelKey_limit_iff, ← hkey, checkLabelKey, then_eq_ok, refuse_eq_ok, refuse_eq_ok]
    simp [Option.any_eq_false, Option.bind_eq_some_iff]
  · rintro (h | ⟨domain, name, heq, hdomain, -, hname⟩)
    · exact h.chars_of_label
    · rw [heq]
      intro c hc
      rcases List.mem_append.1 hc with hc | hc
      · have hchar := hdomain.chars c hc
        tauto
      · rcases List.mem_cons.1 hc with rfl | hc
        · simp
        · exact hname.chars_of_label c hc
  · unfold checkLabelKey
    cases hfits : Patterns.standard.labelKey s with
    | false => exact .error (.inl rfl)
    | true =>
      refine Meets.bind (.ok trivial : Meets _ (fun _ => True) _) fun _ _ => .refuse ?_
      cases hlong : Numeral.isWritable limit with
      | true => exact .inl (by simp [Fault.kind, Malformed.quoted, hlong])
      | false => exact .inr ⟨rfl, hkey.1 hfits, hlong⟩

end rules

/-- **Names and labels.** Each rule for a name, for a public name, for the value of a label and for
its key decides the grammar of such texts, and the recognisers accept the languages of the patterns.
Nothing else than ASCII characters is ever accepted, and no end of a line. What is rejected is
malformed, unless it is a key whose domain is longer than a limit that is too long to be written. -/
theorem names_decided (s : String) (limit : Int) :
    Decides s (fun _ => False) (checkLabelValue s) (s = "" ∨ Segment s.toList) ∧
    Decides s (LimitUnstated limit s) (checkLabelKey limit s) (LabelKey (some limit) s.toList) ∧
    Decides s (fun _ => False) (checkDnsName s) (DnsName s.toList) ∧
    Decides s (fun _ => False) (checkPoolName s) (PoolName s.toList) ∧
    (Patterns.standard.labelValue s = true ↔ s.toList ∈ segmentPattern.language) ∧
    (Patterns.standard.labelKey s = true ↔ s.toList ∈ labelKeyPattern.language) ∧
    (Patterns.standard.dnsName s = true ↔ s.toList ∈ dnsNamePattern.language) ∧
    (Patterns.standard.poolName s = true ↔ s.toList ∈ poolNamePattern.language) :=
  ⟨decides_checkLabelValue, decides_checkLabelKey, decides_checkDnsName, decides_checkPoolName,
    isSegment_iff.trans mem_segmentPattern.symm, isLabelKey_iff.trans mem_labelKeyPattern.symm,
    isDnsName_iff.trans mem_dnsNamePattern.symm, isPoolName_iff.trans mem_poolNamePattern.symm⟩

/-- A key within the limit belongs to the grammar, and one that is too long is malformed. -/
theorem names_decided_within_limit :
    (checkLabelKey 3 "a.b/name" = .ok () ∧ LabelKey (some 3) "a.b/name".toList) ∧
      ∃ fault, checkLabelKey 2 "a.b/name" = .error fault ∧ fault.kind = .malformed := by
  have haccepted : checkLabelKey 3 "a.b/name" = .ok () := by decide
  have hrejected : checkLabelKey 2 "a.b/name" =
      .error (.malformed (.labelDomain "a.b/name" 2)) := by
    decide
  refine ⟨⟨haccepted, (names_decided "a.b/name" 3).2.1.accepts.1 haccepted⟩, _, hrejected, ?_⟩
  rcases (names_decided "a.b/name" 2).2.1.rejects _ hrejected with hkind | hunstated
  · exact hkind
  · have hshort : Numeral.isWritable 2 = true := by decide +kernel
    exact absurd hunstated.long (by simp [hshort])

/-- Settings with another limit for the domains of labels, whatever it is. -/
def Settings.withDomainLimit (s : Settings) (limit : Int) : Settings where
  toDraft := { s.toDraft with labelDomainLimit := limit }
  sound := s.sound

/-- With a limit that is negative and too long to be written a key with a domain is rejected, and
not as malformed. -/
theorem checkLabelKey_of_unwritable_limit :
    let settings := Settings.standard.withDomainLimit (-(tenTo Numeral.digitLimit))
    ∃ fault, checkLabelKey settings.labelDomainLimit "a/b" settings.patterns = .error fault ∧
      fault.kind ≠ .malformed := by
  refine ⟨.malformed (.labelDomain "a/b" (-(tenTo Numeral.digitLimit))), ?_, ?_⟩
  · decide +kernel
  · decide +kernel

end ClusterPlan
