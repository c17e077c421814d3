import ClusterPlan.Proofs.MinorRelease
import ClusterPlan.Proofs.VersionOrder
import Mathlib.Data.List.Chain

/-!
# What a request resolves to, exactly

The search for the newest patch of a release goes through a list once and keeps the best version so
far. What it has found is the first of the newest versions in the part that it has gone through
(`Catalogue.FirstNewest`): one more version keeps this true (`Catalogue.FirstNewest.step`), and so
does the whole list (`Catalogue.FirstNewest.run`).

What the orchestrators offer is listed oldest first (`Catalogue.ascending_offered`). So no two
versions of a catalogue are equally new, and the newest patch of a release is the one that all its
other patches precede (`Catalogue.newestPatch_eq_some_iff`).

`Catalogue.ComesTo` states what each kind of request comes to, and `Catalogue.resolve_eq_some_iff`
that this is what it resolves to. `resolveVersion_answers` says so for every orchestrator and states
the consequences: to ask for the version that a request resolves to, with or without its minor
release, resolves to that version again; and a request that resolves for Windows resolves to the
same version for Linux.
-/

namespace ClusterPlan

open Std

/-! ## Newer versions -/

namespace Version

variable {u v w : Version}

theorem newer_eq_true : v.newer w = true ↔ compare v w = .gt := by
  simp [newer]

theorem newer_self (v : Version) : v.newer v = false := by
  have := transCmp_compare
  have hself : compare v v = .eq := ReflCmp.compare_self
  rw [newer, hself]
  rfl

theorem newer_trans (huv : u.newer v = true) (hvw : v.newer w = true) : u.newer w = true := by
  rw [newer_eq_true] at huv hvw ⊢
  have := transCmp_compare
  exact TransCmp.gt_trans huv hvw

/-- A version that is newer than another is newer than all versions that are not newer than that
one. -/
theorem newer_of_not_newer (huv : u.newer v = true) (hwv : w.newer v = false) :
    u.newer w = true := by
  have := transCmp_compare
  have hswap : compare v w = (compare w v).swap := OrientedCmp.eq_swap
  have hvw : (compare v w).isGE = true := by
    rw [hswap, Ordering.isGE_swap]
    cases hc : compare w v
    case gt => simp [newer, hc] at hwv
    all_goals rfl
  rw [newer_eq_true] at huv ⊢
  exact TransCmp.gt_of_gt_of_isGE huv hvw

end Version

namespace Catalogue

variable {c : Catalogue} {release version text series : String}

/-! ## The search for the newest patch -/

/-- What has been found in a list: nothing, if none of its versions belongs to the release; or else
the first of the newest ones, which is newer than those before it and not older than those after
it. -/
def FirstNewest (series : String) (xs : List (String × Version)) :
    Option (String × Version) → Prop
  | none => ∀ y ∈ xs, y.2.series ≠ series
  | some x => ∃ before after, xs = before ++ x :: after ∧ x.2.series = series ∧
      (∀ y ∈ before, y.2.series = series → x.2.newer y.2 = true) ∧
      ∀ y ∈ after, y.2.series = series → y.2.newer x.2 = false

namespace FirstNewest

variable {xs : List (String × Version)} {best : Option (String × Version)}

/-- A version of another release changes nothing. -/
theorem skip (h : FirstNewest series xs best) {y : String × Version} (hy : y.2.series ≠ series) :
    FirstNewest series (xs ++ [y]) best := by
  cases best with
  | none =>
    intro z hz
    rcases List.mem_append.1 hz with hz | hz
    · exact h z hz
    · rwa [List.mem_singleton.1 hz]
  | some x =>
    obtain ⟨before, after, rfl, hx, hbefore, hafter⟩ := h
    refine ⟨before, after ++ [y], by simp, hx, hbefore, fun z hz hseries => ?_⟩
    rcases List.mem_append.1 hz with hz | hz
    · exact hafter z hz hseries
    · rw [List.mem_singleton.1 hz] at hseries
      exact absurd hseries hy

/-- The first version of the release is the newest so far. -/
theorem first (h : FirstNewest series xs none) {y : String × Version} (hy : y.2.series = series) :
    FirstNewest series (xs ++ [y]) (some y) :=
  ⟨xs, [], rfl, hy, fun z hz hseries => absurd hseries (h z hz), by simp⟩

/-- A version that is not newer leaves the newest one as it is. -/
theorem keep {x y : String × Version} (h : FirstNewest series xs (some x))
    (hy : y.2.newer x.2 = false) : FirstNewest series (xs ++ [y]) (some x) := by
  obtain ⟨before, after, rfl, hx, hbefore, hafter⟩ := h
  refine ⟨before, after ++ [y], by simp, hx, hbefore, fun z hz hseries => ?_⟩
  rcases List.mem_append.1 hz with hz | hz
  · exact hafter z hz hseries
  · rwa [List.mem_singleton.1 hz]

/-- A newer version of the release takes the place of the newest one. -/
theorem replace {x y : String × Version} (h : FirstNewest series xs (some x))
    (hy : y.2.series = series) (hnewer : y.2.newer x.2 = true) :
    FirstNewest series (xs ++ [y]) (some y) := by
  obtain ⟨before, after, rfl, hx, hbefore, hafter⟩ := h
  refine ⟨before ++ x :: after, [], rfl, hy, fun z hz hseries => ?_, by simp⟩
  rcases List.mem_append.1 hz with hz | hz
  · exact Version.newer_trans hnewer (hbefore z hz hseries)
  · rcases List.mem_cons.1 hz with rfl | hz
    · exact hnewer
    · exact Version.newer_of_not_newer hnewer (hafter z hz hseries)

/-- One more version of the list. -/
theorem step (h : FirstNewest series xs best) (y : String × Version) :
    FirstNewest series (xs ++ [y]) (newestOf series best [y]) := by
  obtain ⟨text, v⟩ := y
  by_cases hseries : v.series = series
  · rcases best with _ | ⟨text', w⟩
    · simpa only [newestOf, hseries, if_true] using h.first (y := (text, v)) hseries
    · by_cases hnewer : v.newer w = true
      · simpa only [newestOf, hseries, hnewer, if_true] using
          h.replace (y := (text, v)) hseries hnewer
      · have hnot : v.newer w = false := by simpa using hnewer
        simpa [newestOf, hseries, hnot] using h.keep (y := (text, v)) hnot
  · simpa only [newestOf, hseries, if_false] using h.skip (y := (text, v)) hseries

/-- The rest of the list. -/
theorem run (h : FirstNewest series xs best) (ys : List (String × Version)) :
    FirstNewest series (xs ++ ys) (newestOf series best ys) := by
  induction ys generalizing xs best with
  | nil => simpa [newestOf] using h
  | cons y ys ih =>
    have hcons := ih (h.step y)
    rw [List.append_assoc, ← newestOf_append] at hcons
    exact hcons

end FirstNewest

/-- The search finds the first of the newest versions. -/
theorem firstNewest_newestOf (series : String) (xs : List (String × Version)) :
    FirstNewest series xs (newestOf series none xs) := by
  have hnone : FirstNewest series [] none := by simp [FirstNewest]
  exact hnone.run xs

theorem FirstNewest.mem {xs : List (String × Version)} {x : String × Version}
    (h : FirstNewest series xs (some x)) : x ∈ xs := by
  obtain ⟨before, after, rfl, -⟩ := h
  exact List.mem_append_right _ List.mem_cons_self

/-- No version of the release is newer than the one that has been found. -/
theorem FirstNewest.not_newer {xs : List (String × Version)} {x y : String × Version}
    (h : FirstNewest series xs (some x)) (hy : y ∈ xs) (hseries : y.2.series = series) :
    y.2.newer x.2 = false := by
  obtain ⟨before, after, rfl, -, hbefore, hafter⟩ := h
  rcases List.mem_append.1 hy with hy | hy
  · by_contra hnewer
    have hcycle := Version.newer_trans (hbefore y hy hseries) (by simpa using hnewer)
    rw [Version.newer_self] at hcycle
    cases hcycle
  · rcases List.mem_cons.1 hy with rfl | hy
    · exact Version.newer_self _
    · exact hafter y hy hseries

/-! ## The order of the catalogues -/

/-- Both texts are versions, and the first one is older. -/
def Precedes (text other : String) : Prop :=
  ∃ v w, Version.read text = .ok v ∧ Version.read other = .ok w ∧ w.newer v = true

/-- Texts can be read and compared. -/
def decidePrecedes (text other : String) : Bool :=
  match Version.read text, Version.read other with
  | .ok v, .ok w => w.newer v
  | _, _ => false

theorem decidePrecedes_eq_true {text other : String} :
    decidePrecedes text other = true ↔ Precedes text other := by
  unfold decidePrecedes Precedes
  cases Version.read text <;> cases Version.read other <;> simp

instance (text other : String) : Decidable (Precedes text other) :=
  decidable_of_iff _ decidePrecedes_eq_true

theorem Precedes.trans {a b c : String} (hab : Precedes a b) (hbc : Precedes b c) :
    Precedes a c := by
  obtain ⟨u, v, hu, hv, huv⟩ := hab
  obtain ⟨v', w, hv', hw, hvw⟩ := hbc
  obtain rfl : v = v' := Except.ok.inj (hv.symm.trans hv')
  exact ⟨u, w, hu, hw, Version.newer_trans hvw huv⟩

theorem Precedes.irrefl (text : String) : ¬ Precedes text text := by
  rintro ⟨v, w, hv, hw, hnewer⟩
  obtain rfl : v = w := Except.ok.inj (hv.symm.trans hw)
  rw [Version.newer_self] at hnewer
  cases hnewer

instance : IsTrans String Precedes := ⟨fun _ _ _ => Precedes.trans⟩

/-- What is offered is listed oldest first. -/
theorem ascending_offered (windows : Bool) (orchestrator : Orchestrator) :
    (of windows orchestrator).offered.Pairwise Precedes := by
  rw [← List.isChain_iff_pairwise]
  cases windows <;> cases orchestrator <;> decide

variable {windows : Bool} {orchestrator : Orchestrator}

/-- Of two different versions that are offered, one precedes the other. -/
theorem precedes_or_precedes {other : String} (htext : text ∈ (of windows orchestrator).offered)
    (hother : other ∈ (of windows orchestrator).offered) (hne : other ≠ text) :
    Precedes other text ∨ Precedes text other := by
  have : Std.Symm fun a b => Precedes a b ∨ Precedes b a := ⟨fun _ _ => Or.symm⟩
  have heither : (of windows orchestrator).offered.Pairwise
      fun a b => Precedes a b ∨ Precedes b a :=
    (ascending_offered windows orchestrator).imp Or.inl
  exact heither.forall hother htext hne

/-- The offered version of a release that all its other offered versions precede. -/
structure IsNewestPatch (c : Catalogue) (series text : String) : Prop where
  offered : text ∈ c.offered
  belongs : series? text = some series
  newest : ∀ other ∈ c.offered, series? other = some series → other ≠ text → Precedes other text

theorem IsNewestPatch.unique {other : String} (h : c.IsNewestPatch series text)
    (h' : c.IsNewestPatch series other) : text = other := by
  by_contra hne
  have hcycle := (h.newest other h'.offered h'.belongs (Ne.symm hne)).trans
    (h'.newest text h.offered h.belongs hne)
  exact Precedes.irrefl other hcycle

theorem isNewestPatch_of_newestPatch
    (h : newestPatch series (of windows orchestrator).offered = some text) :
    (of windows orchestrator).IsNewestPatch series text := by
  obtain ⟨hoffered, hbelongs⟩ := newestPatch_eq_some h
  refine ⟨hoffered, hbelongs, fun other hother hseries hne => ?_⟩
  refine (precedes_or_precedes hoffered hother hne).resolve_right ?_
  -- a version that the found one precedes would have been found in its place
  rintro ⟨v, w, hv, hw, hnewer⟩
  obtain ⟨⟨text, v'⟩, hfound, rfl⟩ := Option.map_eq_some_iff.1 h
  have hfirst := firstNewest_newestOf series (readAll (of windows orchestrator).offered)
  rw [hfound] at hfirst
  obtain rfl : v = v' := Except.ok.inj (hv.symm.trans (mem_readAll.1 hfirst.mem).2)
  obtain ⟨w', hw', hbelongs'⟩ := series?_eq_some.1 hseries
  obtain rfl : w = w' := Except.ok.inj (hw.symm.trans hw')
  have hnot := hfirst.not_newer (mem_readAll.2 ⟨hother, hw⟩) hbelongs'
  rw [hnewer] at hnot
  cases hnot

/-- The newest patch of a release in a catalogue. -/
theorem newestPatch_eq_some_iff :
    newestPatch series (of windows orchestrator).offered = some text ↔
      (of windows orchestrator).IsNewestPatch series text := by
  refine ⟨isNewestPatch_of_newestPatch, fun h => ?_⟩
  cases hfound : newestPatch series (of windows orchestrator).offered with
  | none => exact absurd h.belongs (newestPatch_eq_none.1 hfound text h.offered)
  | some other => rw [h.unique (isNewestPatch_of_newestPatch hfound)]

/-! ## The four kinds of request -/

/-- What a request comes to, by its kind: the default for neither a release nor a version, the
newest patch for a release alone, and the version itself where one is named that is offered and
belongs to the release, if there is a release. -/
inductive ComesTo (c : Catalogue) (release version : String) : String → Prop where
  | default (hrelease : release = "") (hversion : version = "") :
      ComesTo c release version c.default
  | newest {text : String} (hrelease : release ≠ "") (hversion : version = "")
      (hnewest : c.IsNewestPatch release text) : ComesTo c release version text
  | named (hversion : version ≠ "") (hoffered : version ∈ c.offered)
      (hseries : release = "" ∨ series? version = some release) : ComesTo c release version version

theorem resolve_eq_some_iff :
    (of windows orchestrator).resolve release version = some text ↔
      (of windows orchestrator).ComesTo (dropV release) (dropV version) text := by
  by_cases hversion : dropV version = ""
  · by_cases hrelease : dropV release = ""
    · rw [resolve_default hrelease hversion]
      constructor
      · rintro h
        obtain rfl := Option.some.inj h
        exact .default hrelease hversion
      · rintro (_ | ⟨hnot, -, -⟩ | ⟨hnot, -, -⟩)
        · rfl
        · exact absurd hrelease hnot
        · exact absurd hversion hnot
    · rw [resolve_release hrelease hversion, newestPatch_eq_some_iff]
      constructor
      · exact .newest hrelease hversion
      · rintro (⟨hnot, -⟩ | ⟨-, -, hnewest⟩ | ⟨hnot, -, -⟩)
        · exact absurd hnot hrelease
        · exact hnewest
        · exact absurd hversion hnot
  · rw [resolve_version_eq_some hversion]
    constructor
    · rintro ⟨rfl, hoffered, hseries⟩
      exact .named hversion hoffered hseries
    · rintro (⟨-, hnot⟩ | ⟨-, hnot, -⟩ | ⟨-, hoffered, hseries⟩)
      · exact absurd hnot hversion
      · exact absurd hnot hversion
      · exact ⟨rfl, hoffered, hseries⟩

/-! ## Consequences -/

theorem default_of (windows : Bool) (orchestrator : Orchestrator) :
    (of windows orchestrator).default = (of false orchestrator).default := by
  cases windows <;> cases orchestrator <;> rfl

/-- Whatever a request comes to is offered. -/
theorem ComesTo.mem_offered
    (h : (of windows orchestrator).ComesTo release version text) :
    text ∈ (of windows orchestrator).offered := by
  cases h with
  | default =>
    rw [default_of]
    exact default_mem_offered windows orchestrator
  | newest _ _ hnewest => exact hnewest.offered
  | named _ hoffered _ => exact hoffered

/-- A version that is offered comes to itself. -/
theorem ComesTo.of_mem_offered (h : text ∈ (of windows orchestrator).offered)
    (hseries : release = "" ∨ series? text = some release) :
    (of windows orchestrator).ComesTo release (dropV text) text := by
  obtain ⟨hplain, hsome⟩ := dropV_of_mem_offered h
  rw [hplain]
  exact .named hsome h hseries

/-- A request that resolves for Windows resolves to the same version for Linux. -/
theorem resolve_of_windows (h : (of windows orchestrator).resolve release version = some text) :
    (of false orchestrator).resolve release version = some text := by
  cases windows with
  | false => exact h
  | true =>
    cases orchestrator with
    | kubernetes => exact resolve_kubernetes_of_windows h
    | dcos | swarm | swarmMode | openShift => exact h

end Catalogue

open Catalogue

variable {name release version text : String} {windows : Bool} {orchestrator : Orchestrator}

theorem resolveVersion_of_name (h : Orchestrator.ofName? name = some orchestrator) :
    resolveVersion name release version windows =
      (of windows orchestrator).resolve release version := by
  simp [resolveVersion, ofName?, h]

theorem resolveVersion_of_no_name (h : Orchestrator.ofName? name = none) :
    resolveVersion name release version windows = none := by
  simp [resolveVersion, ofName?, h]

/-- To ask for what a request resolves to, with or without its minor release, resolves to it again,
and so does the request for Linux. -/
theorem resolveVersion_again (h : resolveVersion name release version windows = some text) :
    text ≠ "" ∧ resolveVersion name "" text windows = some text ∧
      (∃ series, series? text = some series ∧
        resolveVersion name series text windows = some text) ∧
      resolveVersion name release version false = some text := by
  cases hname : Orchestrator.ofName? name with
  | none =>
    rw [resolveVersion_of_no_name hname] at h
    cases h
  | some orchestrator =>
    simp only [resolveVersion_of_name hname] at h ⊢
    have hoffered := (resolve_eq_some_iff.1 h).mem_offered
    obtain ⟨v, hread⟩ := read_of_mem_offered hoffered
    have hseries : series? text = some v.series := series?_eq_some.2 ⟨v, hread, rfl⟩
    refine ⟨(dropV_of_mem_offered hoffered).2, ?_, ⟨v.series, hseries, ?_⟩, resolve_of_windows h⟩
    · exact resolve_eq_some_iff.2 (.of_mem_offered hoffered (.inl rfl))
    · rw [resolve_eq_some_iff, v.dropV_series]
      exact .of_mem_offered hoffered (.inr hseries)

/-- **What a request resolves to.** For an unknown orchestrator that is nothing. For a known one the
default version is offered, a request resolves to a version iff it comes to it, and a request for a
release alone resolves to nothing iff the release has no version on offer. To ask for what a request
resolves to, with or without its minor release, resolves to it again, and so does the request for
Linux. -/
theorem resolveVersion_answers (name release version : String) (windows : Bool) :
    (Orchestrator.ofName? name = none → resolveVersion name release version windows = none) ∧
    (∀ orchestrator, Orchestrator.ofName? name = some orchestrator →
      (of windows orchestrator).default ∈ (of windows orchestrator).offered ∧
      (∀ text, resolveVersion name release version windows = some text ↔
        (of windows orchestrator).ComesTo (dropV release) (dropV version) text) ∧
      (dropV release ≠ "" → dropV version = "" →
        (resolveVersion name release version windows = none ↔
          ∀ text ∈ (of windows orchestrator).offered, series? text ≠ some (dropV release)))) ∧
    ∀ text, resolveVersion name release version windows = some text →
      text ≠ "" ∧ resolveVersion name "" text windows = some text ∧
        (∃ series, series? text = some series ∧
          resolveVersion name series text windows = some text) ∧
        resolveVersion name release version false = some text := by
  refine ⟨resolveVersion_of_no_name, fun orchestrator hname => ?_, fun text h =>
    resolveVersion_again h⟩
  simp only [resolveVersion_of_name hname]
  refine ⟨?_, fun text => resolve_eq_some_iff, fun hrelease hversion => ?_⟩
  · rw [default_of]
    exact default_mem_offered windows orchestrator
  · rw [resolve_release hrelease hversion, newestPatch_eq_none]

/-- A request for a release of Docker, with the letter, comes to the newest patch of it, which is
written with more digits than the release. -/
theorem resolveVersion_swarmMode :
    resolveVersion "SwarmMode" "v17.3" "" false = some "17.03.0" ∧
      (of false .swarmMode).ComesTo "17.3" "" "17.03.0" ∧
      resolveVersion "SwarmMode" "" "17.03.0" false = some "17.03.0" := by
  have hrelease : dropV "v17.3" = "17.3" := by decide
  have hresolved : resolveVersion "SwarmMode" "v17.3" "" false = some "17.03.0" := by decide
  obtain ⟨-, hknown, hagain⟩ := resolveVersion_answers "SwarmMode" "v17.3" "" false
  refine ⟨hresolved, ?_, (hagain _ hresolved).2.1⟩
  rw [← hrelease]
  exact ((hknown .swarmMode rfl).2.1 _).1 hresolved

end ClusterPlan
