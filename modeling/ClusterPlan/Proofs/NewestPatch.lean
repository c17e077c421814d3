import ClusterPlan.Proofs.Resolution

/-!
# The newest patch among any candidates

The candidates may be any texts, in any order, and the same one may come more than once. Those that
are no versions do not count, and neither do versions of other releases. What is found among the
others is the first of the newest ones (`Catalogue.IsFirstNewest`). There is at most one such text
(`Catalogue.IsFirstNewest.unique`), so `Catalogue.newestPatch_iff_isFirstNewest` says exactly what
is found.

A version can be written in several ways, as `1.9.3` and `v1.9.3.0` are, and the order of the
candidates decides which of the equally new texts comes first. This is all that it decides: in any
other order the candidate that is found is equally new (`Catalogue.rel_newestPatch_of_perm`).
-/

namespace ClusterPlan

open Std

namespace Version

/-- The numbers of a text are short: if the text follows the grammar of versions, none of its runs
of digits is longer than a numeral may be. -/
def HasShortNumbers (s : String) : Prop :=
  ∀ parts, parts? (Text.trim Text.isBlank s.toList) = some parts →
    ∀ run ∈ parts.runs, run.length ≤ Numeral.digitLimit

theorem read_ne_overlong_iff {s : String} :
    read s ≠ .error .overlong ↔ HasShortNumbers s := by
  unfold read HasShortNumbers
  cases parts? (Text.trim Text.isBlank s.toList) with
  | none => simp
  | some parts =>
    by_cases hall : parts.runs.all (·.length ≤ Numeral.digitLimit) = true
    · simp only [hall, if_true]
      simpa using hall
    · simp only [hall]
      simpa using hall

instance (s : String) : Decidable (HasShortNumbers s) :=
  decidable_of_iff _ read_ne_overlong_iff

end Version

namespace Catalogue

variable {series text other : String} {candidates : List String}

/-! ## Equally new texts -/

/-- Both texts are versions, and neither is newer, in whatever way they are written. -/
def EquallyNew (text other : String) : Prop :=
  ∃ v w, Version.read text = .ok v ∧ Version.read other = .ok w ∧ Version.compare v w = .eq

theorem EquallyNew.symm (h : EquallyNew text other) : EquallyNew other text := by
  obtain ⟨v, w, hv, hw, heq⟩ := h
  have := Version.transCmp_compare
  exact ⟨w, v, hw, hv, OrientedCmp.eq_symm heq⟩

/-- Of two versions of a release, one precedes the other or they are equally new. -/
theorem equallyNew_of_not_precedes (htext : series? text = some series)
    (hother : series? other = some series) (hnot : ¬ Precedes text other)
    (hnot' : ¬ Precedes other text) : EquallyNew text other := by
  obtain ⟨v, hv, -⟩ := series?_eq_some.1 htext
  obtain ⟨w, hw, -⟩ := series?_eq_some.1 hother
  have := Version.transCmp_compare
  refine ⟨v, w, hv, hw, ?_⟩
  cases hcompare : Version.compare v w with
  | eq => rfl
  | gt => exact absurd ⟨w, v, hw, hv, Version.newer_eq_true.2 hcompare⟩ hnot'
  | lt =>
    have hgt : Version.compare w v = .gt := OrientedCmp.gt_of_lt hcompare
    exact absurd ⟨v, w, hv, hw, Version.newer_eq_true.2 hgt⟩ hnot

/-! ## The first of the newest candidates -/

/-- The candidate of a release that none of its other candidates is newer than, and the first one
of those that are equally new. -/
structure IsFirstNewest (series : String) (candidates : List String) (text : String) : Prop where
  belongs : series? text = some series
  newest : ∀ other ∈ candidates, series? other = some series → ¬ Precedes text other
  first : ∃ before after, candidates = before ++ text :: after ∧
    ∀ other ∈ before, series? other = some series → ¬ EquallyNew text other

namespace IsFirstNewest

theorem mem (h : IsFirstNewest series candidates text) : text ∈ candidates := by
  obtain ⟨before, after, hsplit, -⟩ := h.first
  rw [hsplit]
  exact List.mem_append_right _ List.mem_cons_self

/-- Two such candidates are equally new, also if they come from the same texts in different
orders. -/
theorem equallyNew_of_perm {reordered : List String} (h : IsFirstNewest series candidates text)
    (h' : IsFirstNewest series reordered other) (hperm : reordered.Perm candidates) :
    EquallyNew text other := by
  apply equallyNew_of_not_precedes h.belongs h'.belongs
  · exact h.newest other (hperm.mem_iff.1 h'.mem) h'.belongs
  · exact h'.newest text (hperm.mem_iff.2 h.mem) h.belongs

theorem unique (h : IsFirstNewest series candidates text)
    (h' : IsFirstNewest series candidates other) : text = other := by
  have hequal := h.equallyNew_of_perm h' (.refl _)
  obtain ⟨before, after, hsplit, hfirst⟩ := h.first
  obtain ⟨before', after', hsplit', hfirst'⟩ := h'.first
  rcases List.append_eq_append_iff.1 (hsplit.symm.trans hsplit') with
    ⟨between, hbefore, hrest⟩ | ⟨between, hbefore, hrest⟩
  · cases between with
    | nil => exact (List.cons.inj hrest).1
    | cons c between =>
      -- the first text stands before the second, which is equally new
      obtain ⟨rfl, -⟩ := List.cons.inj hrest
      exact absurd hequal.symm (hfirst' text (by simp [hbefore]) h.belongs)
  · cases between with
    | nil => exact (List.cons.inj hrest).1.symm
    | cons c between =>
      obtain ⟨rfl, -⟩ := List.cons.inj hrest
      exact absurd hequal (hfirst other (by simp [hbefore]) h'.belongs)

end IsFirstNewest

/-! ## What the search finds -/

/-- A candidate that can be read, with what comes before and after it. -/
theorem exists_split_of_readAll {v : Version} {before after : List (String × Version)}
    (h : readAll candidates = before ++ (text, v) :: after) :
    ∃ front back, candidates = front ++ text :: back ∧ readAll front = before := by
  unfold readAll at h
  obtain ⟨front, rest, rfl, hfront, hrest⟩ := List.filterMap_eq_append_iff.1 h
  obtain ⟨skipped, found, back, rfl, hskipped, hfound, -⟩ := List.filterMap_eq_cons_iff.1 hrest
  obtain rfl : found = text := by
    cases hread : Version.read found with
    | ok w =>
      simp only [hread, Option.some.injEq, Prod.mk.injEq] at hfound
      exact hfound.1
    | error fault => simp [hread] at hfound
  refine ⟨front ++ skipped, back, by simp, ?_⟩
  rw [readAll_append, readAll, hfront, readAll, List.filterMap_eq_nil_iff.2 hskipped,
    List.append_nil]

theorem FirstNewest.isFirstNewest {v : Version}
    (h : FirstNewest series (readAll candidates) (some (text, v))) :
    IsFirstNewest series candidates text := by
  have hread : Version.read text = .ok v := (mem_readAll.1 h.mem).2
  have hnotNewer : ∀ other ∈ candidates, series? other = some series → ¬ Precedes text other := by
    rintro other hother hseries ⟨v', w, hv', hw, hnewer⟩
    obtain rfl : v = v' := Except.ok.inj (hread.symm.trans hv')
    obtain ⟨w', hw', hbelongs⟩ := series?_eq_some.1 hseries
    obtain rfl : w = w' := Except.ok.inj (hw.symm.trans hw')
    have hnot := h.not_newer (mem_readAll.2 ⟨hother, hw⟩) hbelongs
    rw [hnewer] at hnot
    cases hnot
  obtain ⟨before, after, hsplit, hbelongs, hbefore, -⟩ := h
  obtain ⟨front, back, hcandidates, hfront⟩ := exists_split_of_readAll hsplit
  refine ⟨series?_eq_some.2 ⟨v, hread, hbelongs⟩, hnotNewer, front, back, hcandidates, ?_⟩
  rintro other hother hseries ⟨v', w, hv', hw, heq⟩
  obtain rfl : v = v' := Except.ok.inj (hread.symm.trans hv')
  obtain ⟨w', hw', hbelongs'⟩ := series?_eq_some.1 hseries
  obtain rfl : w = w' := Except.ok.inj (hw.symm.trans hw')
  -- the version that was found is newer than those of its release before it
  have hnewer := hbefore (other, w) (hfront ▸ mem_readAll.2 ⟨hother, hw⟩) hbelongs'
  rw [Version.newer_eq_true, heq] at hnewer
  cases hnewer

theorem isFirstNewest_of_newestPatch (h : newestPatch series candidates = some text) :
    IsFirstNewest series candidates text := by
  obtain ⟨⟨found, v⟩, hfound, rfl⟩ := Option.map_eq_some_iff.1 h
  have hfirst := firstNewest_newestOf series (readAll candidates)
  rw [hfound] at hfirst
  exact hfirst.isFirstNewest

/-- The text that is found among any candidates is the first of the newest ones of the release. -/
theorem newestPatch_iff_isFirstNewest :
    newestPatch series candidates = some text ↔ IsFirstNewest series candidates text := by
  refine ⟨isFirstNewest_of_newestPatch, fun h => ?_⟩
  cases hfound : newestPatch series candidates with
  | none => exact absurd h.belongs (newestPatch_eq_none.1 hfound text h.mem)
  | some other => rw [h.unique (isFirstNewest_of_newestPatch hfound)]

/-- In another order of the candidates either nothing is found as well, or an equally new text. -/
theorem rel_newestPatch_of_perm {reordered : List String} (hperm : reordered.Perm candidates) :
    Option.Rel EquallyNew (newestPatch series candidates) (newestPatch series reordered) := by
  cases hfound : newestPatch series candidates with
  | none =>
    have hnone : newestPatch series reordered = none := by
      rw [newestPatch_eq_none] at hfound ⊢
      exact fun text hmem => hfound text (hperm.mem_iff.1 hmem)
    rw [hnone]
    exact .none
  | some text =>
    cases hfound' : newestPatch series reordered with
    | none =>
      have hfirst := isFirstNewest_of_newestPatch hfound
      exact absurd hfirst.belongs
        (newestPatch_eq_none.1 hfound' text (hperm.mem_iff.2 hfirst.mem))
    | some other =>
      exact .some ((isFirstNewest_of_newestPatch hfound).equallyNew_of_perm
        (isFirstNewest_of_newestPatch hfound') hperm)

/-! ## Candidates with short numbers -/

theorem newestPatch?_eq_ok (hshort : ∀ text ∈ candidates, Version.HasShortNumbers text) :
    newestPatch? series candidates = .ok (newestPatch series candidates) := by
  have hnone : candidates.any isOverlong = false := by
    rw [List.any_eq_false]
    intro text hmem hlong
    apply Version.read_ne_overlong_iff.2 (hshort text hmem)
    unfold isOverlong at hlong
    split at hlong
    · assumption
    · cases hlong
  rw [newestPatch?, hnone]
  rfl

/-- **The newest patch of a release.** Among candidates without a number that is too long to be read
there is an answer, and it is never the empty text. Nothing is found iff no candidate is a version
of the release, and a text is found iff it is the first of the newest candidates that are. In
another order of the candidates either nothing is found as well, or an equally new text. -/
theorem newestPatch?_answers (series : String) (candidates : List String)
    (hshort : ∀ text ∈ candidates, Version.HasShortNumbers text) :
    ∃ found, newestPatch? series candidates = .ok found ∧ found ≠ some "" ∧
      (found = none ↔ ∀ text ∈ candidates, series? text ≠ some series) ∧
      (∀ text, found = some text ↔ IsFirstNewest series candidates text) ∧
      ∀ reordered : List String, reordered.Perm candidates →
        ∃ found', newestPatch? series reordered = .ok found' ∧
          Option.Rel EquallyNew found found' := by
  refine ⟨newestPatch series candidates, newestPatch?_eq_ok hshort, ?_, newestPatch_eq_none,
    fun text => newestPatch_iff_isFirstNewest, fun reordered hperm => ?_⟩
  · intro hempty
    have hbelongs := (isFirstNewest_of_newestPatch hempty).belongs
    -- the empty text is no version
    cases hbelongs
  · have hshort' : ∀ text ∈ reordered, Version.HasShortNumbers text :=
      fun text hmem => hshort text (hperm.mem_iff.1 hmem)
    exact ⟨newestPatch series reordered, newestPatch?_eq_ok hshort', rel_newestPatch_of_perm hperm⟩

/-- Candidates of two releases, with previews, texts that are no versions, and the newest patch in
two ways of writing. -/
def loosePatches : List String :=
  ["1.9.2", "latest", "1.10.4", "1.9.3-rc.1", "v1.9.3.0", "1.9", "1.9.3", "1.9.2", "1.9.3.dev2", ""]

/-- The first of the two ways of writing is found, and the other one in the opposite order. -/
theorem loosePatches_answers :
    (∀ text ∈ loosePatches, Version.HasShortNumbers text) ∧
      newestPatch? "1.9" loosePatches = .ok (some "v1.9.3.0") ∧
      IsFirstNewest "1.9" loosePatches "v1.9.3.0" ∧
      newestPatch? "1.9" loosePatches.reverse = .ok (some "1.9.3") ∧
      EquallyNew "v1.9.3.0" "1.9.3" := by
  have hshort : ∀ text ∈ loosePatches, Version.HasShortNumbers text := by decide
  have hforth : newestPatch? "1.9" loosePatches = .ok (some "v1.9.3.0") := by decide
  have hback : newestPatch? "1.9" loosePatches.reverse = .ok (some "1.9.3") := by decide
  obtain ⟨found, hfound, -, -, hfirst, hperm⟩ := newestPatch?_answers "1.9" loosePatches hshort
  obtain rfl := Except.ok.inj (hforth.symm.trans hfound)
  obtain ⟨found', hfound', hrel⟩ := hperm loosePatches.reverse loosePatches.reverse_perm
  obtain rfl := Except.ok.inj (hback.symm.trans hfound')
  cases hrel with
  | some hequal => exact ⟨hshort, hforth, (hfirst _).1 rfl, hback, hequal⟩

end Catalogue

end ClusterPlan
