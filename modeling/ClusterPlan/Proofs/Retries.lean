import ClusterPlan.Proofs.DurationGrammar
import ClusterPlan.Proofs.Rounding
import ClusterPlan.Proofs.Services
import ClusterPlan.Proofs.Settings

/-!
# How many reports fit into the grace period

The rule divides the grace period by the interval of the reports, after both have been rounded to
seconds, and compares the rounded quotient with the number of reports that is asked for. The exact
comparison is between the grace period and a multiple of the interval, in whole nanoseconds.

Three roundings, each by at most `2 ^ (-53)` of the value, do not matter if the grace period is away
from the multiple by at least `2 ^ (-51)` of it. A multiple by a power of two is not affected by
them at all, so a grace period that reaches it is never found too short. The two cases make up
`Kubernetes.IsClear`. `Kubernetes.check_retries_iff` says what the rule compares, among the other
rules for the settings, and that it is exact in these cases.

Elsewhere it may not be: three tenths of a second are found to be less than three times a tenth
(`Kubernetes.reporting_short_of_itself`).
-/

namespace ClusterPlan

/-! ## Durations -/

namespace Duration

/-- The magnitude of a duration that is read stays within the limit. -/
theorem natAbs_le_limit {text : String} {d : Duration} (h : read text = .ok d) :
    d.nanoseconds.natAbs ≤ limit :=
  (read_eq_ok.1 h).2

/-- A text without a sign and with one component. -/
theorem read_single {text : String} {c : Component}
    (hsign : Numeral.cutSign text.toList = (false, text.toList))
    (hcomponent : component? text.toList = some (c, [])) (hreadable : c.isReadable = true)
    (hfits : c.nanoseconds ≤ limit) : read text = .ok ⟨c.nanoseconds⟩ := by
  have hzero : text.toList ≠ ['0'] := by
    intro h
    rw [h] at hcomponent
    cases hcomponent
  have hnonempty : text.toList.isEmpty = false := by
    cases h : text.toList with
    | nil => rw [h] at hcomponent; cases hcomponent
    | cons => rfl
  have hend : sum c.nanoseconds [] = .ok c.nanoseconds := by
    rw [sum]
    rfl
  have hsum : sum 0 text.toList = .ok c.nanoseconds := by
    rw [sum_of_component? hcomponent, hreadable, Nat.zero_add, if_neg (by decide),
      if_neg (Nat.not_lt.2 hfits), hend]
  rw [read, hsign]
  simp [hzero, hnonempty, hsum, Except.map]

open Binary64

/-- In seconds a duration other than zero is between `2 ^ (-30)` and `2 ^ 34`. -/
theorem two_zpow_le_seconds {n : ℕ} (hpos : 0 < n) : (2 : ℚ) ^ (-30 : ℤ) ≤ n / 10 ^ 9 := by
  have hone : (1 : ℚ) ≤ n := by exact_mod_cast hpos
  calc (2 : ℚ) ^ (-30 : ℤ)
      ≤ 1 / 10 ^ 9 := by norm_num
    _ ≤ n / 10 ^ 9 := by gcongr

theorem seconds_lt_two_zpow {n : ℕ} (hbound : n ≤ limit) : (n / 10 ^ 9 : ℚ) < 2 ^ (34 : ℤ) := by
  have hlimit : (n : ℚ) ≤ 2 ^ 63 - 1 := by
    have h : n + 1 ≤ 2 ^ 63 := Nat.add_le_add_right hbound 1
    have h' : (n : ℚ) + 1 ≤ 2 ^ 63 := by exact_mod_cast h
    linarith
  calc (n / 10 ^ 9 : ℚ)
      ≤ (2 ^ 63 - 1) / 10 ^ 9 := by gcongr
    _ < 2 ^ (34 : ℤ) := by norm_num

/-- A duration in seconds is the rounded quotient. -/
theorem denotes_seconds {n : ℤ} (hne : n ≠ 0) (hbound : n.natAbs ≤ limit) :
    (seconds ⟨n⟩).Denotes (decide (n < 0)) (rounded (n.natAbs / 10 ^ 9)) := by
  have hpos : 0 < n.natAbs := Int.natAbs_pos.2 hne
  have hten : ((tenTo 9 : ℕ) : ℚ) = 10 ^ 9 := by norm_num [tenTo]
  rw [← hten]
  refine denotes_ofRatio _ hpos (Nat.pow_pos (by norm_num)) ?_
  rw [hten]
  exact .of_zpow (two_zpow_le_seconds hpos) (seconds_lt_two_zpow hbound) (by norm_num) (by norm_num)

end Duration

/-! ## Quotients of durations -/

namespace Kubernetes

open Binary64

/-- The quotient of two positive durations as it is computed. -/
def retries (grace update : ℕ) : ℚ :=
  rounded (rounded (grace / 10 ^ 9) / rounded (update / 10 ^ 9))

section quotient

variable {g f : ℕ} (hg : 0 < g) (hgl : g ≤ Duration.limit) (hf : 0 < f) (hfl : f ≤ Duration.limit)

include hg hgl in
/-- The bounds of the exact number of seconds hold of the rounded one. -/
theorem rounded_seconds_bounds :
    (2 : ℚ) ^ (-30 : ℤ) ≤ rounded (g / 10 ^ 9) ∧ rounded (g / 10 ^ 9) ≤ (2 : ℚ) ^ (34 : ℤ) := by
  have hlow := Duration.two_zpow_le_seconds hg
  have hhigh := Duration.seconds_lt_two_zpow hgl
  constructor
  · rw [← rounded_two_zpow (-30)]
    exact rounded_mono (two_zpow_pos _) hlow
  · rw [← rounded_two_zpow 34]
    exact rounded_mono ((two_zpow_pos _).trans_le hlow) hhigh.le

include hg hgl hf hfl in
theorem isNormal_quotient : IsNormal (rounded (g / 10 ^ 9) / rounded (f / 10 ^ 9)) := by
  obtain ⟨hglow, hghigh⟩ := rounded_seconds_bounds hg hgl
  obtain ⟨hflow, hfhigh⟩ := rounded_seconds_bounds hf hfl
  have hgpos := (two_zpow_pos _).trans_le hglow
  have hfpos := (two_zpow_pos _).trans_le hflow
  refine .of_zpow (k := -64) (l := 65) ?_ ?_ (by norm_num) (by norm_num)
  · calc (2 : ℚ) ^ (-64 : ℤ)
        = 2 ^ (-30 : ℤ) / 2 ^ (34 : ℤ) := by norm_num
      _ ≤ rounded (g / 10 ^ 9) / rounded (f / 10 ^ 9) := by gcongr
  · calc rounded (g / 10 ^ 9) / rounded (f / 10 ^ 9)
        ≤ 2 ^ (34 : ℤ) / 2 ^ (-30 : ℤ) := by gcongr
      _ < 2 ^ (65 : ℤ) := by norm_num

variable {r : ℤ} (hr : 1 ≤ r)

include hg hf hr in
/-- A grace period that falls short of the multiple by enough. -/
theorem retries_lt (h : r * f ≤ 2 ^ 51 * (r * f - g)) : retries g f < r := by
  have hg' : (0 : ℚ) < g := by exact_mod_cast hg
  have hf' : (0 : ℚ) < f := by exact_mod_cast hf
  have hr' : (0 : ℚ) < r := by exact_mod_cast hr
  have hshort : (r : ℚ) * f ≤ 2 ^ 51 * (r * f - g) := by exact_mod_cast h
  have hbelow : (g : ℚ) ≤ (1 - 1 / 2 ^ 51) * (r * f) := by linarith
  apply rounded_div_lt (by positivity) (by positivity) hr'
  calc (g / 10 ^ 9 : ℚ)
      ≤ (1 - 1 / 2 ^ 51) * (r * f) / 10 ^ 9 := by gcongr
    _ = (1 - 1 / 2 ^ 51) * (r * (f / 10 ^ 9)) := by ring

include hg hf hr in
/-- A grace period that exceeds the multiple by enough. -/
theorem le_retries (h : r * f ≤ 2 ^ 51 * (g - r * f)) : r ≤ retries g f := by
  have hg' : (0 : ℚ) < g := by exact_mod_cast hg
  have hf' : (0 : ℚ) < f := by exact_mod_cast hf
  have hr' : (0 : ℚ) < r := by exact_mod_cast hr
  have hlong : (r : ℚ) * f ≤ 2 ^ 51 * (g - r * f) := by exact_mod_cast h
  have habove : (1 + 1 / 2 ^ 51) * (r * f) ≤ (g : ℚ) := by linarith
  apply le_rounded_div (by positivity) (by positivity) hr'
  calc (1 + 1 / 2 ^ 51) * (r * (f / 10 ^ 9) : ℚ)
      = (1 + 1 / 2 ^ 51) * (r * f) / 10 ^ 9 := by ring
    _ ≤ (g : ℚ) / 10 ^ 9 := by gcongr

include hf in
/-- A grace period that reaches a multiple by a power of two. -/
theorem two_pow_le_retries {n : ℕ} (h : 2 ^ n * f ≤ g) : 2 ^ n ≤ retries g f := by
  have hf' : (0 : ℚ) < f := by exact_mod_cast hf
  have hreach : (2 : ℚ) ^ n * f ≤ g := by exact_mod_cast h
  rw [← zpow_natCast]
  apply two_zpow_le_rounded_div (by positivity)
  calc (2 : ℚ) ^ (n : ℤ) * (f / 10 ^ 9)
      = 2 ^ n * f / 10 ^ 9 := by rw [zpow_natCast, mul_div_assoc]
    _ ≤ (g : ℚ) / 10 ^ 9 := by gcongr

end quotient

/-- A grace period is too short iff the computed quotient is below the number of reports. One that
is not positive always is. -/
theorem isTooShort_iff {g f r : ℤ} (hf : 0 < f) (hfl : f.natAbs ≤ Duration.limit)
    (hgl : g.natAbs ≤ Duration.limit) (hr : 1 ≤ r) :
    isTooShort ⟨g⟩ ⟨f⟩ r = true ↔ g ≤ 0 ∨ retries g.natAbs f.natAbs < r := by
  have hr' : (1 : ℚ) ≤ r := by exact_mod_cast hr
  have hfpos : 0 < f.natAbs := Int.natAbs_pos.2 hf.ne'
  have hupdate := Duration.denotes_seconds hf.ne' hfl
  rw [decide_eq_false (not_lt.2 hf.le)] at hupdate
  have hupdatePos := rounded_pos ((two_zpow_pos _).trans_le (Duration.two_zpow_le_seconds hfpos))
  rw [isTooShort, isZero_eq_false hupdate hupdatePos, Bool.not_false, Bool.true_and]
  by_cases hzero : g = 0
  · subst hzero
    have hgrace : (Duration.seconds ⟨0⟩).Denotes false 0 := ⟨0, minExponent, rfl, by simp⟩
    rw [ltInt_iff (denotes_zero_div hgrace hupdate hupdatePos)]
    refine iff_of_true ?_ (.inl le_rfl)
    simp only [bne_self_eq_false, Bool.false_eq_true, if_false]
    linarith
  · have hgpos : 0 < g.natAbs := Int.natAbs_pos.2 hzero
    have hgrace := Duration.denotes_seconds hzero hgl
    have hgracePos := rounded_pos ((two_zpow_pos _).trans_le (Duration.two_zpow_le_seconds hgpos))
    have hnormal := isNormal_quotient hgpos hgl hfpos hfl
    have hretries : 0 < retries g.natAbs f.natAbs := rounded_pos (div_pos hgracePos hupdatePos)
    rw [ltInt_iff (denotes_div hgrace hupdate hgracePos hupdatePos hnormal), ← retries,
      Bool.bne_false]
    simp only [decide_eq_true_eq]
    by_cases hneg : g < 0
    · rw [if_pos hneg]
      refine iff_of_true ?_ (.inl hneg.le)
      linarith
    · have hnonpos : ¬ g ≤ 0 := fun hle => hzero (by omega)
      rw [if_neg hneg, or_iff_right hnonpos]

/-! ## The exact comparison -/

/-- Rounding does not matter: the grace period is away from the multiple, or it reaches a multiple
by a power of two. -/
def IsClear (grace update factor : ℤ) : Prop :=
  factor * update ≤ 2 ^ 51 * |grace - factor * update| ∨
    (∃ n : ℕ, factor = 2 ^ n) ∧ factor * update ≤ grace

/-- Up to `2 ^ 51` nanoseconds, which are 26 days, only the multiple itself is not clear. -/
theorem isClear_of_ne {g f r : ℤ} (hbound : r * f ≤ 2 ^ 51) (hne : g ≠ r * f) : IsClear g f r := by
  have hdistance : 1 ≤ |g - r * f| := Int.one_le_abs (sub_ne_zero.2 hne)
  exact .inl (by linarith)

/-- Clear of rounding, a grace period is too short iff it is shorter than the multiple. -/
theorem isTooShort_iff_lt {g f r : ℤ} (hf : 0 < f) (hfl : f.natAbs ≤ Duration.limit)
    (hgl : g.natAbs ≤ Duration.limit) (hr : 1 ≤ r) (hclear : IsClear g f r) :
    isTooShort ⟨g⟩ ⟨f⟩ r = true ↔ g < r * f := by
  have hmultiple : 0 < r * f := Int.mul_pos (by omega) hf
  rw [isTooShort_iff hf hfl hgl hr]
  by_cases hg : g ≤ 0
  · exact iff_of_true (.inl hg) (hg.trans_lt hmultiple)
  rw [or_iff_right hg]
  lift g to ℕ using (not_le.1 hg).le
  lift f to ℕ using hf.le
  have hg' : 0 < g := by exact_mod_cast not_le.1 hg
  have hf' : 0 < f := by exact_mod_cast hf
  rw [Int.natAbs_natCast, Int.natAbs_natCast]
  by_cases hlt : (g : ℤ) < r * f
  · rcases hclear with haway | ⟨-, hle⟩
    · rw [abs_of_neg (sub_neg.2 hlt), neg_sub] at haway
      exact iff_of_true (retries_lt hg' hf' hr haway) hlt
    · exact absurd hlt (not_lt.2 hle)
  · refine iff_of_false (not_lt.2 ?_) hlt
    rcases hclear with haway | ⟨⟨n, rfl⟩, hle⟩
    · rw [abs_of_nonneg (sub_nonneg.2 (not_lt.1 hlt))] at haway
      exact le_retries hg' hf' hr haway
    · push_cast
      exact two_pow_le_retries hf' (by exact_mod_cast hle)

/-! ## The rule among the others -/

section rules

variable {s : Settings} {k : Kubernetes} {version : String} {grace update : Duration} {factor : ℤ}

theorem checkNonMasquerade_ne_retries :
    k.checkNonMasquerade ≠ .error (.conflict (.retries grace update factor)) := by
  unfold checkNonMasquerade
  cases k.kubeletConfig.get? nonMasquerade with
  | none => exact nofun
  | some network => exact refuse_ne_error nofun

theorem checkDuration_ne_retries (options : TextMap) (option : String) :
    checkDuration options option ≠ .error (.conflict (.retries grace update factor)) := by
  unfold checkDuration durationOf
  split
  · exact nofun
  · split <;> exact nofun

theorem checkServices_ne_retries :
    k.checkServices ≠ .error (.conflict (.retries grace update factor)) := by
  unfold checkServices checkServiceAddress
  split_ifs
  · exact nofun
  · exact nofun
  · exact nofun
  split
  · exact nofun
  split
  · exact nofun
  refine bind_ne_error (refuse_ne_error nofun) fun _ => ?_
  refine bind_ne_error (refuse_ne_error nofun) fun _ => ?_
  refine bind_ne_error (refuse_ne_error nofun) fun _ => ?_
  split
  · exact nofun
  · exact refuse_ne_error nofun

theorem readVersion_ne_conflict {text : String} {otherwise : Malformed} {cause : Conflict} :
    readVersion text otherwise ≠ .error (.conflict cause) := by
  unfold readVersion
  split <;> exact nofun

theorem checkCloudController_ne_retries :
    k.checkCloudController s version ≠ .error (.conflict (.retries grace update factor)) := by
  unfold checkCloudController checkWhen checkMinimum meetsMinimum
  split_ifs
  · refine bind_ne_error ?_ fun _ => refuse_ne_error nofun
    refine bind_ne_error readVersion_ne_conflict fun _ => ?_
    exact bind_ne_error readVersion_ne_conflict fun _ => nofun
  · exact nofun

/-- If the rules before it hold, the fault of the rule for the reports is the fault of all. -/
theorem check_eq_retries (hsubnet : k.checkClusterSubnet = .ok ())
    (hbridge : k.checkDockerBridge = .ok ()) (hpods : k.checkMaxPods s.minMaxPods = .ok ()) :
    k.check s version = .error (.conflict (.retries grace update factor)) ↔
      k.checkRetries s.minKubeletRetries = .error (.conflict (.retries grace update factor)) := by
  unfold check
  rw [hsubnet, hbridge, hpods]
  show (do k.checkRetries s.minKubeletRetries; _) = _ ↔ _
  cases k.checkRetries s.minKubeletRetries with
  | error fault => rfl
  | ok =>
    refine iff_of_false (bind_ne_error nofun fun _ => ?_) nofun
    refine bind_ne_error checkNonMasquerade_ne_retries fun _ => ?_
    refine bind_ne_error (checkDuration_ne_retries _ _) fun _ => ?_
    refine bind_ne_error (checkDuration_ne_retries _ _) fun _ => ?_
    refine bind_ne_error (refuse_ne_error nofun) fun _ => ?_
    refine bind_ne_error (refuse_ne_error nofun) fun _ => ?_
    refine bind_ne_error checkServices_ne_retries fun _ => ?_
    exact bind_ne_error (refuse_ne_error nofun) fun _ => checkCloudController_ne_retries

/-- If both times are set, the fault of the rule for the reports is that of a short grace period. -/
theorem checkRetries_eq_error
    (hupdate : durationOf k.kubeletConfig updateFrequency = .ok (some update))
    (hgrace : durationOf k.controllerManagerConfig gracePeriod = .ok (some grace)) :
    k.checkRetries factor = .error (.conflict (.retries grace update factor)) ↔
      isTooShort grace update factor = true := by
  unfold checkRetries
  rw [hupdate, hgrace]
  show refuse _ _ = _ ↔ _
  cases isTooShort grace update factor <;> simp [refuse]

/-- A time that is set to a duration is within the limit. -/
theorem natAbs_durationOf_le {options : TextMap} {option : String} {d : Duration}
    (h : durationOf options option = .ok (some d)) : d.nanoseconds.natAbs ≤ Duration.limit := by
  unfold durationOf at h
  split at h
  · cases h
  · split at h
    · next hread =>
      cases h
      exact Duration.natAbs_le_limit hread
    · cases h

end rules

/-- **When the grace period is too short.** If the rules before it hold, and the interval is
positive, the rule for the reports is broken iff the quotient of the two times, rounded as it is, is
below the number of intervals that is asked for. Clear of rounding, this is so iff the grace period
is shorter than so many intervals. The fault has a diagnostic iff their number can be written. -/
theorem check_retries_iff (s : Settings) (version : String) (k : Kubernetes) {g f : ℤ}
    (hsubnet : k.checkClusterSubnet = .ok ()) (hbridge : k.checkDockerBridge = .ok ())
    (hpods : k.checkMaxPods s.minMaxPods = .ok ())
    (hupdate : durationOf k.kubeletConfig updateFrequency = .ok (some ⟨f⟩)) (hf : 0 < f)
    (hgrace : durationOf k.controllerManagerConfig gracePeriod = .ok (some ⟨g⟩)) :
    (k.check s version = .error (.conflict (.retries ⟨g⟩ ⟨f⟩ s.minKubeletRetries)) ↔
      g ≤ 0 ∨ retries g.natAbs f.natAbs < s.minKubeletRetries) ∧
    (IsClear g f s.minKubeletRetries →
      (k.check s version = .error (.conflict (.retries ⟨g⟩ ⟨f⟩ s.minKubeletRetries)) ↔
        g < s.minKubeletRetries * f)) ∧
    ((Fault.conflict (.retries ⟨g⟩ ⟨f⟩ s.minKubeletRetries)).kind = .conflict ↔
      Numeral.isWritable s.minKubeletRetries = true) := by
  have hfl := natAbs_durationOf_le hupdate
  have hgl := natAbs_durationOf_le hgrace
  have hr := s.one_le_minKubeletRetries
  rw [check_eq_retries hsubnet hbridge hpods, checkRetries_eq_error hupdate hgrace]
  refine ⟨isTooShort_iff hf hfl hgl hr, isTooShort_iff_lt hf hfl hgl hr, ?_⟩
  simp only [Fault.kind, Conflict.quoted, List.all_cons, List.all_nil, Bool.and_true]
  split_ifs with hwritable
  · exact iff_of_true rfl hwritable
  · exact iff_of_false nofun hwritable

/-- Settings with the two times and nothing else. -/
def reporting (frequency grace : String) : Kubernetes :=
  { unset with
    kubeletConfig := .ofList [(updateFrequency, frequency)]
    controllerManagerConfig := .ofList [(gracePeriod, grace)] }

theorem durationOf_eq {options : TextMap} {option text : String} {d : Duration}
    (hget : options.get? option = some text) (hread : Duration.read text = .ok d) :
    durationOf options option = .ok (some d) := by
  rw [durationOf, hget]
  simp only [hread]

theorem reporting_too_short :
    (reporting "10s" "39s").check .standard "1.10.4" =
      .error (.conflict (.retries ⟨39000000000⟩ ⟨10000000000⟩ 4)) := by
  have hfrequency : Duration.read "10s" = .ok ⟨10000000000⟩ :=
    Duration.read_single (c := ⟨['1', '0'], [], 1000000000⟩) rfl rfl rfl (by decide)
  have hlimit : Duration.read "39s" = .ok ⟨39000000000⟩ :=
    Duration.read_single (c := ⟨['3', '9'], [], 1000000000⟩) rfl rfl rfl (by decide)
  have hupdate : durationOf (reporting "10s" "39s").kubeletConfig updateFrequency =
      .ok (some ⟨10000000000⟩) := durationOf_eq rfl hfrequency
  have hgrace : durationOf (reporting "10s" "39s").controllerManagerConfig gracePeriod =
      .ok (some ⟨39000000000⟩) := durationOf_eq rfl hlimit
  have hclear : IsClear 39000000000 10000000000 4 := isClear_of_ne (by norm_num) (by norm_num)
  exact ((check_retries_iff .standard "1.10.4" (reporting "10s" "39s") rfl rfl rfl hupdate
    (by norm_num) hgrace).2.1 hclear).2 (by decide)

/-- Settings that ask for three reports. -/
def threeReports : Settings := ⟨{ Draft.standard with minKubeletRetries := 3 }, by decide⟩

/-- Three tenths of a second are found to be too short for three reports in a tenth each. -/
theorem reporting_short_of_itself :
    (reporting "100ms" "300ms").check threeReports "1.10.4" =
        .error (.conflict (.retries ⟨300000000⟩ ⟨100000000⟩ 3)) ∧
      threeReports.minKubeletRetries = 3 ∧ ¬ (300000000 : ℤ) < 3 * 100000000 := by
  have hfrequency : Duration.read "100ms" = .ok ⟨100000000⟩ :=
    Duration.read_single (c := ⟨['1', '0', '0'], [], 1000000⟩) rfl rfl rfl (by decide)
  have hlimit : Duration.read "300ms" = .ok ⟨300000000⟩ :=
    Duration.read_single (c := ⟨['3', '0', '0'], [], 1000000⟩) rfl rfl rfl (by decide)
  have hupdate : durationOf (reporting "100ms" "300ms").kubeletConfig updateFrequency =
      .ok (some ⟨100000000⟩) := durationOf_eq rfl hfrequency
  have hgrace : durationOf (reporting "100ms" "300ms").controllerManagerConfig gracePeriod =
      .ok (some ⟨300000000⟩) := durationOf_eq rfl hlimit
  have hshort : isTooShort ⟨300000000⟩ ⟨100000000⟩ 3 = true := by decide +kernel
  refine ⟨?_, rfl, by decide⟩
  exact (check_eq_retries rfl rfl rfl).2 ((checkRetries_eq_error hupdate hgrace).2 hshort)

end Kubernetes

end ClusterPlan
