import ClusterPlan.Rules.Name

/-!
# What the rules for names and ports say

The rules against repetition hold iff nothing is repeated, whatever their diagnostics quote. A label
is in order iff its key is one and its value is empty or one (`checkLabel_eq_ok`).
-/

namespace ClusterPlan

/-- Nothing is repeated in a list iff the search for a repetition finds none. -/
theorem firstRepeated?_nil_eq_none {α : Type} [DecidableEq α] {as : List α} :
    firstRepeated? [] as = none ↔ as.Nodup := by
  rw [firstRepeated?_eq_none]
  simp

theorem checkPorts_eq_ok {ports : List Int} {pool : String} :
    checkPorts ports pool = .ok () ↔ ports.Nodup := by
  rw [← firstRepeated?_nil_eq_none, checkPorts]
  cases firstRepeated? [] ports <;> simp

theorem Pool.checkNames_eq_ok {ps : List Pool} :
    Pool.checkNames ps = .ok () ↔ (ps.map Pool.name).Nodup := by
  rw [← firstRepeated?_nil_eq_none, Pool.checkNames]
  cases firstRepeated? [] (ps.map Pool.name) <;> simp

/-- When a label is in order: the form of its key, the length of the key's domain, its value. -/
theorem checkLabel_eq_ok {s : Settings} {label : String × String} :
    checkLabel s label = .ok () ↔
      s.patterns.labelKey label.1 = true ∧
      (∀ length ∈ Identifier.domainLength? label.1, (length : Int) ≤ s.labelDomainLimit) ∧
      (label.2 = "" ∨ s.patterns.labelValue label.2 = true) := by
  simp only [checkLabel, checkLabelKey, checkLabelValue, then_eq_ok, refuse_eq_ok, and_assoc]
  refine and_congr (by simp) (and_congr ?_ ?_)
  · simp [Option.any_eq_false, Option.bind_eq_some_iff]
  · simp [Decidable.or_iff_not_imp_left]

end ClusterPlan
