import ClusterPlan.Proofs.Catalogue
import ClusterPlan.Proofs.Orchestration

/-!
# The minor release of a resolved version

A request may name a minor release and a version. What it resolves to belongs to both:
`Catalogue.series_of_resolve` for the catalogue, where the newest patch of a release is one of its
candidates (`Catalogue.newestPatch_eq_some`) and is missing only if the release has none
(`Catalogue.newestPatch_eq_none`).

An existing cluster whose request does not resolve gets a patch for the version that it names, and
the patch belongs to the minor release of that version (`Catalogue.series_of_patchFor`). The release
that the cluster asks for plays no part in this. So the version that a plan comes to always belongs
to the minor release of the version that was named, but it belongs to the release that was asked for
only if the plan does not lose it (`Orchestration.LosesRelease`):
`Orchestration.resolvedVersion_minorRelease` is the exact statement, and
`Orchestration.forgotten_losesRelease` a plan that loses its release.
-/

namespace ClusterPlan

namespace Version

/-- The text of a minor release begins with a digit. -/
theorem exists_digit_of_series (v : Version) :
    ∃ digit rest, v.series.toList = digit :: rest ∧ digit.isDigit = true := by
  have hseries : v.series.toList = (toString (v.numbers.getD 0 0)).toList ++
      ("." ++ toString (v.numbers.getD 1 0)).toList := by
    rw [← String.toList_append, ← String.append_assoc]
    rfl
  have hdigits : ∀ c ∈ (toString (v.numbers.getD 0 0)).toList, c.isDigit = true := by
    intro c hc
    rw [Nat.toString_eq_repr, Nat.repr_eq_ofList_toDigits, String.toList_ofList] at hc
    exact Nat.isDigit_of_mem_toDigits (by decide) (by decide) hc
  cases hfirst : (toString (v.numbers.getD 0 0)).toList with
  | nil =>
    rw [Nat.toString_eq_repr, Nat.repr_eq_ofList_toDigits, String.toList_ofList] at hfirst
    exact absurd hfirst Nat.toDigits_ne_nil
  | cons digit rest =>
    refine ⟨digit, _, by rw [hseries, hfirst, List.cons_append], ?_⟩
    exact hdigits digit (by rw [hfirst]; exact List.mem_cons_self)

theorem series_ne_empty (v : Version) : v.series ≠ "" := by
  obtain ⟨digit, rest, hseries, -⟩ := v.exists_digit_of_series
  intro hempty
  rw [hempty] at hseries
  cases hseries

/-- A minor release is written without a leading letter `v`. -/
theorem dropV_series (v : Version) : Catalogue.dropV v.series = v.series := by
  obtain ⟨digit, rest, hseries, hdigit⟩ := v.exists_digit_of_series
  unfold Catalogue.dropV
  split
  case h_1 tail hv =>
    obtain ⟨rfl, -⟩ := List.cons.inj (hseries.symm.trans hv)
    exact absurd hdigit (by decide)
  case h_2 => rfl

end Version

namespace Catalogue

variable {c : Catalogue} {release version text series : String} {candidates : List String}

/-! ## The newest patch of a release -/

theorem series?_eq_some :
    series? text = some series ↔ ∃ v, Version.read text = .ok v ∧ v.series = series := by
  unfold series?
  cases Version.read text with
  | ok v => simp
  | error fault => simp

theorem mem_readAll {v : Version} :
    (text, v) ∈ readAll candidates ↔ text ∈ candidates ∧ Version.read text = .ok v := by
  unfold readAll
  rw [List.mem_filterMap]
  constructor
  · rintro ⟨found, hfound, hread⟩
    cases h : Version.read found with
    | ok w =>
      simp only [h, Option.some.injEq, Prod.mk.injEq] at hread
      obtain ⟨rfl, rfl⟩ := hread
      exact ⟨hfound, h⟩
    | error fault => simp [h] at hread
  · rintro ⟨hmem, hread⟩
    exact ⟨text, hmem, by rw [hread]⟩

/-- The search ends with what it began with, or with a version of the release. -/
theorem newestOf_cases (series : String) (best : Option (String × Version))
    (xs : List (String × Version)) :
    newestOf series best xs = best ∨
      ∃ x ∈ xs, newestOf series best xs = some x ∧ x.2.series = series := by
  induction xs generalizing best with
  | nil => exact .inl rfl
  | cons x xs ih =>
    obtain ⟨text, v⟩ := x
    -- the new best is the old one, or the version at hand if it belongs to the release
    have hstep : ∃ next, newestOf series best ((text, v) :: xs) = newestOf series next xs ∧
        (next = best ∨ next = some (text, v) ∧ v.series = series) := by
      by_cases hseries : v.series = series
      · rcases best with _ | ⟨text', w⟩
        · exact ⟨some (text, v), by simp only [newestOf, hseries, if_true], .inr ⟨rfl, hseries⟩⟩
        · by_cases hnewer : v.newer w = true
          · exact ⟨some (text, v), by simp only [newestOf, hseries, hnewer, if_true],
              .inr ⟨rfl, hseries⟩⟩
          · exact ⟨some (text', w), by simp [newestOf, hseries, hnewer], .inl rfl⟩
      · exact ⟨best, by simp only [newestOf, hseries, if_false], .inl rfl⟩
    obtain ⟨next, hnext, hbest⟩ := hstep
    rw [hnext]
    rcases ih next with hkept | ⟨y, hy, hfound⟩
    · rcases hbest with rfl | ⟨rfl, hseries⟩
      · exact .inl hkept
      · exact .inr ⟨(text, v), List.mem_cons_self, hkept, hseries⟩
    · exact .inr ⟨y, List.mem_cons_of_mem _ hy, hfound⟩

/-- A search that has found something does not lose it. -/
theorem newestOf_some_ne_none (best : String × Version) (xs : List (String × Version)) :
    newestOf series (some best) xs ≠ none := by
  rcases newestOf_cases series (some best) xs with h | ⟨x, -, h, -⟩
  · simp [h]
  · simp [h]

theorem newestOf_none_eq_none {xs : List (String × Version)} :
    newestOf series none xs = none ↔ ∀ x ∈ xs, x.2.series ≠ series := by
  induction xs with
  | nil => simp [newestOf]
  | cons x xs ih =>
    obtain ⟨text, v⟩ := x
    rw [List.forall_mem_cons, newestOf]
    by_cases hseries : v.series = series
    · simp [hseries, newestOf_some_ne_none]
    · simp [hseries, ih]

/-- The newest patch of a release is a candidate that belongs to the release. -/
theorem newestPatch_eq_some (h : newestPatch series candidates = some text) :
    text ∈ candidates ∧ series? text = some series := by
  obtain ⟨⟨found, v⟩, hfound, rfl⟩ := Option.map_eq_some_iff.1 h
  rcases newestOf_cases series none (readAll candidates) with hnone | ⟨x, hx, hsome, hseries⟩
  · cases hnone.symm.trans hfound
  · obtain rfl := Option.some.inj (hsome.symm.trans hfound)
    obtain ⟨hmem, hread⟩ := mem_readAll.1 hx
    exact ⟨hmem, series?_eq_some.2 ⟨v, hread, hseries⟩⟩

/-- There is no newest patch of a release iff no candidate belongs to it. -/
theorem newestPatch_eq_none :
    newestPatch series candidates = none ↔ ∀ text ∈ candidates, series? text ≠ some series := by
  rw [newestPatch, Option.map_eq_none_iff, newestOf_none_eq_none]
  constructor
  · intro h text hmem hseries
    obtain ⟨v, hread, hv⟩ := series?_eq_some.1 hseries
    exact h (text, v) (mem_readAll.2 ⟨hmem, hread⟩) hv
  · rintro h ⟨text, v⟩ hx hv
    obtain ⟨hmem, hread⟩ := mem_readAll.1 hx
    exact h text hmem (series?_eq_some.2 ⟨v, hread, hv⟩)

/-! ## Requests -/

/-- What a request resolves to belongs to the release that it names, and to the minor release of
the version that it names. -/
theorem series_of_resolve (h : c.resolve release version = some text) :
    (dropV release ≠ "" → series? text = some (dropV release)) ∧
      (dropV version ≠ "" → text = dropV version ∧ text ∈ c.offered) := by
  by_cases hversion : dropV version = ""
  · refine ⟨fun hrelease => ?_, fun hnot => absurd hversion hnot⟩
    rw [resolve_release hrelease hversion] at h
    exact (newestPatch_eq_some h).2
  · obtain ⟨htext, hoffered, hseries⟩ := (resolve_version_eq_some hversion).1 h
    rw [htext]
    exact ⟨fun hrelease => hseries.resolve_left hrelease, fun _ => ⟨rfl, hoffered⟩⟩

/-- A patch belongs to the minor release of the version whose place it takes. -/
theorem series_of_patchFor (hversion : version ≠ "") (h : c.patchFor version = .ok (some text)) :
    ∃ v, Version.read (dropV version) = .ok v ∧ series? text = some v.series := by
  obtain ⟨v, hread, hresolved⟩ := (patchFor_eq_some hversion).1 h
  refine ⟨v, hread, ?_⟩
  rw [resolve_release (by rw [v.dropV_series]; exact v.series_ne_empty) rfl, v.dropV_series]
    at hresolved
  exact (newestPatch_eq_some hresolved).2

/-- Everything that is offered is a version. -/
theorem read_of_mem_offered {windows : Bool} {orchestrator : Orchestrator}
    (h : text ∈ (of windows orchestrator).offered) : ∃ v, Version.read text = .ok v := by
  have hall : ∀ text ∈ (of windows orchestrator).offered, (series? text).isSome = true := by
    cases windows <;> cases orchestrator <;> decide
  obtain ⟨series, hseries⟩ := Option.isSome_iff_exists.1 (hall text h)
  obtain ⟨v, hread, -⟩ := series?_eq_some.1 hseries
  exact ⟨v, hread⟩

/-- The default version is offered, also for Windows. -/
theorem default_mem_offered (windows : Bool) (orchestrator : Orchestrator) :
    (of false orchestrator).default ∈ (of windows orchestrator).offered := by
  cases windows <;> cases orchestrator <;> decide

end Catalogue

/-! ## Plans -/

namespace Orchestration

open Catalogue

variable {mode : Mode} {windows : Bool} {o : Orchestration} {resolved : String}

/-- An existing cluster whose request does not lead to the release that it asks for: it names a
version of another release, or it names none and the release has no patch. -/
def LosesRelease (mode : Mode) (windows : Bool) (o : Orchestration) : Prop :=
  mode = .update ∧
    ((dropV o.version ≠ "" ∧ series? (dropV o.version) ≠ some (dropV o.release)) ∨
      (dropV o.version = "" ∧ resolveVersion o.type o.release o.version windows = none))

/-- The catalogue in which the request of a plan has been resolved. -/
theorem exists_catalogue_of_resolve
    (h : resolveVersion o.type o.release o.version windows = some resolved) :
    ∃ orchestrator, Orchestrator.ofName? o.type = some orchestrator ∧
      (of windows orchestrator).resolve o.release o.version = some resolved := by
  obtain ⟨c, hc, hresolved⟩ := Option.bind_eq_some_iff.1 h
  obtain ⟨orchestrator, hname, rfl⟩ := Option.map_eq_some_iff.1 hc
  exact ⟨orchestrator, hname, hresolved⟩

/-- The catalogue in which a patch has been found. -/
theorem exists_catalogue_of_patch (h : patchVersion o.type o.version = .ok (some resolved)) :
    ∃ orchestrator, Orchestrator.ofName? o.type = some orchestrator ∧
      (of false orchestrator).patchFor o.version = .ok (some resolved) := by
  unfold patchVersion ofName? at h
  cases hname : Orchestrator.ofName? o.type with
  | some orchestrator =>
    rw [hname] at h
    exact ⟨orchestrator, rfl, h⟩
  | none =>
    simp only [hname, Option.map_none] at h
    split at h <;> cases h

/-- A request that resolves leads to what it asks for. -/
theorem minorRelease_of_resolve
    (h : resolveVersion o.type o.release o.version windows = some resolved) :
    (dropV o.version ≠ "" →
      ∃ v, Version.read (dropV o.version) = .ok v ∧ series? resolved = some v.series) ∧
    (dropV o.release ≠ "" →
      series? resolved = some (dropV o.release) ∧ ¬ o.LosesRelease mode windows) := by
  obtain ⟨orchestrator, -, hresolved⟩ := exists_catalogue_of_resolve h
  obtain ⟨hrelease, hversion⟩ := series_of_resolve hresolved
  refine ⟨fun hnamed => ?_, fun hasked => ⟨hrelease hasked, ?_⟩⟩
  · obtain ⟨htext, hoffered⟩ := hversion hnamed
    obtain ⟨v, hread⟩ := read_of_mem_offered hoffered
    rw [← htext]
    exact ⟨v, hread, series?_eq_some.2 ⟨v, hread, rfl⟩⟩
  · rintro ⟨-, ⟨hnamed, hother⟩ | ⟨-, hnone⟩⟩
    · obtain ⟨htext, -⟩ := hversion hnamed
      rw [← htext] at hother
      exact hother (hrelease hasked)
    · cases hnone.symm.trans h

/-- A patch leads to the minor release of the version that was named, and to the release that was
asked for only if the two are the same. -/
theorem minorRelease_of_patch
    (hnone : resolveVersion o.type o.release o.version windows = none)
    (h : patchVersion o.type o.version = .ok (some resolved)) :
    (dropV o.version ≠ "" →
      ∃ v, Version.read (dropV o.version) = .ok v ∧ series? resolved = some v.series) ∧
    (dropV o.release ≠ "" →
      (series? resolved = some (dropV o.release) ↔ ¬ o.LosesRelease .update windows)) := by
  obtain ⟨orchestrator, hname, hpatch⟩ := exists_catalogue_of_patch h
  by_cases hempty : o.version = ""
  · -- no version is named, so the patch is the default version
    have hdrop : dropV o.version = "" := by rw [hempty]; rfl
    refine ⟨fun hnamed => absurd hdrop hnamed, fun hasked => ?_⟩
    have hloses : o.LosesRelease .update windows := ⟨rfl, .inr ⟨hdrop, hnone⟩⟩
    have hdefault : (of false orchestrator).default = resolved := by
      rw [patchFor, hempty] at hpatch
      exact Option.some.inj (Except.ok.inj hpatch)
    have hpatchless : newestPatch (dropV o.release) (of windows orchestrator).offered = none := by
      rw [resolveVersion, ofName?, hname] at hnone
      rw [← resolve_release hasked hdrop]
      exact hnone
    have hother := newestPatch_eq_none.1 hpatchless resolved
      (hdefault ▸ default_mem_offered windows orchestrator)
    exact ⟨fun hseries => absurd hseries hother, fun hnot => absurd hloses hnot⟩
  · obtain ⟨v, hread, hseries⟩ := series_of_patchFor hempty hpatch
    have hnamed : dropV o.version ≠ "" := by
      intro hdrop
      rw [hdrop] at hread
      cases hread
    have hown : series? (dropV o.version) = series? resolved := by
      rw [hseries]
      exact series?_eq_some.2 ⟨v, hread, rfl⟩
    refine ⟨fun _ => ⟨v, hread, hseries⟩, fun hasked => ?_⟩
    rw [← hown]
    constructor
    · rintro hsame ⟨-, ⟨-, hother⟩ | ⟨hdrop, -⟩⟩
      · exact hother hsame
      · exact hnamed hdrop
    · intro hnot
      exact Decidable.byContradiction fun hother => hnot ⟨rfl, .inl ⟨hnamed, hother⟩⟩

/-- **The version of a plan and its request.** The version that a plan comes to belongs to the minor
release of the version that the plan names, which can be read; and it belongs to the release that
the plan asks for unless an existing cluster loses it. -/
theorem resolvedVersion_minorRelease (mode : Mode) (windows : Bool) (o : Orchestration)
    (resolved : String) (h : o.resolvedVersion mode windows = .ok resolved) :
    (dropV o.version ≠ "" →
      ∃ v, Version.read (dropV o.version) = .ok v ∧ series? resolved = some v.series) ∧
    (dropV o.release ≠ "" →
      (series? resolved = some (dropV o.release) ↔ ¬ o.LosesRelease mode windows)) := by
  rcases resolvedVersion_eq_ok.1 h with hresolved | ⟨hnone, rfl, hpatch⟩
  · obtain ⟨hversion, hrelease⟩ := minorRelease_of_resolve hresolved
    exact ⟨hversion, fun hasked => iff_of_true (hrelease hasked).1 (hrelease hasked).2⟩
  · exact minorRelease_of_patch hnone hpatch

/-- An existing Kubernetes cluster that names an old patch of the release it asks for. -/
def outdated : Orchestration := ⟨"Kubernetes", "v1.10", "v1.10.0-rc.1", none, none, none⟩

theorem outdated_minorRelease :
    outdated.resolvedVersion .update true = .ok "1.10.4" ∧
    (dropV outdated.version ≠ "" →
      ∃ v, Version.read (dropV outdated.version) = .ok v ∧ series? "1.10.4" = some v.series) ∧
    (dropV outdated.release ≠ "" →
      (series? "1.10.4" = some (dropV outdated.release) ↔
        ¬ outdated.LosesRelease .update true)) := by
  have hresolved : outdated.resolvedVersion .update true = .ok "1.10.4" := by rfl
  exact ⟨hresolved, resolvedVersion_minorRelease .update true outdated "1.10.4" hresolved⟩

/-- An existing Kubernetes cluster that asks for a release without any supported patch. -/
def forgotten : Orchestration := ⟨"Kubernetes", "1.6", "", none, none, none⟩

/-- The cluster comes to the default version, which belongs to another release. -/
theorem forgotten_losesRelease :
    dropV forgotten.release = "1.6" ∧
      ∃ resolved, forgotten.resolvedVersion .update false = .ok resolved ∧
        series? resolved = some "1.9" ∧ series? resolved ≠ some (dropV forgotten.release) := by
  have hresolved : forgotten.resolvedVersion .update false = .ok "1.9.8" := by rfl
  exact ⟨by decide, "1.9.8", hresolved, by decide, by decide⟩

end Orchestration

end ClusterPlan
