import ClusterPlan.Catalogue

/-!
# What a request comes to

A request names a release, a version, both or neither, and each of these cases has its own rule:
`Catalogue.resolve_default`, `Catalogue.resolve_release`, and `Catalogue.resolve_version_eq_some`
for the two with a version.

The two catalogues of Kubernetes differ in one version, the preview at the end of the first
(`Catalogue.offered_kubernetes`). So a request that resolves for Windows resolves to the same
version for Linux (`Catalogue.resolve_kubernetes_of_windows`), and one that resolves for Linux alone
resolves to the preview (`Catalogue.eq_preview_of_resolve`).
-/

namespace ClusterPlan.Catalogue

variable {c : Catalogue} {release version text : String}

/-- To be offered is to be in the list of what is offered. -/
theorem offers_eq_true : c.offers text = true ↔ text ∈ c.offered := by
  simp only [offers, offered, List.any_eq_true, List.mem_map, List.mem_filter, Bool.and_eq_true,
    beq_iff_eq]
  constructor
  · rintro ⟨l, hl, htext, hoffered⟩
    exact ⟨l, ⟨hl, hoffered⟩, htext⟩
  · rintro ⟨l, ⟨hl, hoffered⟩, htext⟩
    exact ⟨l, hl, htext, hoffered⟩

/-! ## The four kinds of request -/

/-- Neither a release nor a version is requested. -/
theorem resolve_default (hrelease : dropV release = "") (hversion : dropV version = "") :
    c.resolve release version = some c.default := by
  simp [resolve, hrelease, hversion]

/-- A release alone is requested. -/
theorem resolve_release (hrelease : dropV release ≠ "") (hversion : dropV version = "") :
    c.resolve release version = newestPatch (dropV release) c.offered := by
  simp [resolve, hrelease, hversion]

/-- A version is requested, with or without a release. -/
theorem resolve_version_eq_some (hversion : dropV version ≠ "") :
    c.resolve release version = some text ↔
      text = dropV version ∧ dropV version ∈ c.offered ∧
        (dropV release = "" ∨ series? (dropV version) = some (dropV release)) := by
  have hsome : (dropV version).isEmpty = false := by simpa using hversion
  unfold resolve
  simp only [hsome, Bool.false_eq_true, if_false]
  by_cases hoffered : dropV version ∈ c.offered
  · by_cases hseries : dropV release = "" ∨ series? (dropV version) = some (dropV release)
    · rw [if_neg (by simpa using hoffered), if_pos (by simpa using hseries)]
      constructor
      · rintro h
        exact ⟨(Option.some.inj h).symm, hoffered, hseries⟩
      · rintro ⟨rfl, -⟩
        rfl
    · rw [if_neg (by simpa using hoffered), if_neg (by simpa using hseries)]
      simp [hseries]
  · rw [if_pos (by simpa using hoffered)]
    simp [hoffered]

/-- A patch takes the place of a version iff the version can be read and the patch is what its minor
release comes to. -/
theorem patchFor_eq_some (hversion : version ≠ "") :
    c.patchFor version = .ok (some text) ↔
      ∃ v, Version.read (dropV version) = .ok v ∧ c.resolve v.series "" = some text := by
  have hsome : version.isEmpty = false := by simpa using hversion
  unfold patchFor
  simp only [hsome, Bool.false_eq_true, if_false]
  cases Version.read (dropV version) with
  | ok v => simp
  | error fault => cases fault <;> simp

/-! ## The newest patch of a longer list -/

theorem readAll_append (xs ys : List String) : readAll (xs ++ ys) = readAll xs ++ readAll ys :=
  List.filterMap_append

theorem newestOf_append (series : String) (best : Option (String × Version))
    (xs ys : List (String × Version)) :
    newestOf series best (xs ++ ys) = newestOf series (newestOf series best xs) ys := by
  induction xs generalizing best with
  | nil => rfl
  | cons x xs ih =>
    obtain ⟨text, v⟩ := x
    simp only [List.cons_append, newestOf]
    split
    · split
      · exact ih _
      · split <;> exact ih _
    · exact ih _

/-! ## The two catalogues of Kubernetes -/

/-- The version of Kubernetes that Windows lacks. -/
def preview : String := "1.11.0-beta.1"

/-- The minor release of the preview, which has no other version. -/
def previewSeries : String := "1.11"

/-- The preview as a version. -/
def previewVersion : Version := ⟨0, [1, 11, 0], some (.beta, 1), none, none, none⟩

/-- Linux is offered what Windows is offered, and the preview. -/
theorem offered_kubernetes : kubernetes.offered = kubernetesWindows.offered ++ [preview] := by
  decide

theorem preview_not_mem_offered_windows : preview ∉ kubernetesWindows.offered := by decide

theorem newestPatch_windows_previewSeries :
    newestPatch previewSeries kubernetesWindows.offered = none := by
  decide

/-- What is offered is written without a leading letter `v`, and is not empty. -/
theorem dropV_of_mem_offered {windows : Bool} {orchestrator : Orchestrator}
    (h : text ∈ (of windows orchestrator).offered) : dropV text = text ∧ text ≠ "" := by
  have hplain : ∀ text ∈ (of windows orchestrator).offered, dropV text = text ∧ text ≠ "" := by
    cases windows <;> cases orchestrator <;> decide
  exact hplain text h

/-- Linux gets another newest patch than Windows for one release only. -/
theorem newestPatch_kubernetes (series : String) :
    newestPatch series kubernetes.offered =
      if series = previewSeries then some preview
      else newestPatch series kubernetesWindows.offered := by
  have hread : readAll [preview] = [(preview, previewVersion)] := rfl
  unfold newestPatch
  rw [offered_kubernetes, readAll_append, newestOf_append, hread]
  by_cases h : series = previewSeries
  · have hnone := Option.map_eq_none_iff.1 newestPatch_windows_previewSeries
    rw [if_pos h, h, hnone]
    rfl
  · have hseries : previewVersion.series ≠ series := fun heq => h (heq ▸ rfl)
    rw [if_neg h]
    simp only [newestOf, if_neg hseries]

/-- A request that resolves for Windows resolves to the same version for Linux. -/
theorem resolve_kubernetes_of_windows (h : kubernetesWindows.resolve release version = some text) :
    kubernetes.resolve release version = some text := by
  by_cases hversion : dropV version = ""
  · by_cases hrelease : dropV release = ""
    · rw [resolve_default hrelease hversion] at h ⊢
      exact h
    · rw [resolve_release hrelease hversion] at h ⊢
      rw [newestPatch_kubernetes]
      split
      case isTrue hseries =>
        rw [hseries, newestPatch_windows_previewSeries] at h
        cases h
      case isFalse => exact h
  · rw [resolve_version_eq_some hversion] at h ⊢
    obtain ⟨htext, hoffered, hseries⟩ := h
    exact ⟨htext, offered_kubernetes ▸ List.mem_append_left _ hoffered, hseries⟩

/-- The minor release of the preview comes to the preview. -/
theorem resolve_previewSeries (hrelease : dropV release = previewSeries)
    (hversion : dropV version = "") : kubernetes.resolve release version = some preview := by
  rw [resolve_release (by rw [hrelease]; decide) hversion, hrelease, newestPatch_kubernetes,
    if_pos rfl]

/-- A request without a version that resolves for Linux alone is for the minor release of the
preview, and resolves to the preview. -/
theorem previewSeries_of_resolve (hversion : dropV version = "")
    (h : kubernetes.resolve release version = some text)
    (hwindows : kubernetesWindows.resolve release version = none) :
    dropV release = previewSeries ∧ text = preview := by
  by_cases hrelease : dropV release = ""
  · rw [resolve_default hrelease hversion] at hwindows
    cases hwindows
  · rw [resolve_release hrelease hversion] at h hwindows
    rw [newestPatch_kubernetes, hwindows] at h
    split at h
    case isTrue hseries => exact ⟨hseries, (Option.some.inj h).symm⟩
    case isFalse => cases h

/-- A request that resolves for Linux alone resolves to the preview. -/
theorem eq_preview_of_resolve (h : kubernetes.resolve release version = some text)
    (hwindows : kubernetesWindows.resolve release version = none) : text = preview := by
  by_cases hversion : dropV version = ""
  · exact (previewSeries_of_resolve hversion h hwindows).2
  · obtain ⟨htext, hoffered, hseries⟩ := (resolve_version_eq_some hversion).1 h
    rw [offered_kubernetes, List.mem_append, List.mem_singleton] at hoffered
    rcases hoffered with hoffered | hoffered
    · have hresolved := (resolve_version_eq_some (c := kubernetesWindows) hversion).2
        ⟨rfl, hoffered, hseries⟩
      rw [hwindows] at hresolved
      cases hresolved
    · exact htext.trans hoffered

/-- A patch for a version whose request resolves for Linux alone is the preview, unless no version
is named but the minor release of the preview. -/
theorem patchFor_of_resolve_preview (h : kubernetes.resolve release version = some preview)
    (hwindows : kubernetesWindows.resolve release version = none)
    (hpatch : kubernetes.patchFor version = .ok (some text)) :
    (dropV release = previewSeries ∧ version = "") ∨ text = preview := by
  by_cases hnone : version = ""
  · have hempty : dropV version = "" := by rw [hnone]; rfl
    exact .inl ⟨(previewSeries_of_resolve hempty h hwindows).1, hnone⟩
  · -- the version is the preview, whose minor release comes to the preview again
    obtain ⟨v, hread, hresolved⟩ := (patchFor_eq_some hnone).1 hpatch
    have hversion : dropV version ≠ "" := by
      intro hempty
      rw [hempty] at hread
      cases hread
    obtain ⟨hnamed, -⟩ := (resolve_version_eq_some hversion).1 h
    rw [← hnamed] at hread
    obtain rfl : previewVersion = v := Except.ok.inj hread
    rw [resolve_previewSeries rfl rfl] at hresolved
    exact .inr (Option.some.inj hresolved).symm

end ClusterPlan.Catalogue
