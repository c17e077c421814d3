import ClusterPlan.Rules.Field

/-!
# What the field rules say of a pool

`Pool.WellShaped` states the ranges of a pool's fields as a property. The field rules hold of a
pool, at whatever position it stands, iff it has that property (`Pool.checkFields_eq_ok`), and of a
list of pools iff all of them have it (`Pool.checkAllFields_eq_ok`): the position only goes into the
diagnostic.
-/

namespace ClusterPlan

theorem checkText_eq_ok {text path : String} : checkText text path = .ok () ↔ text ≠ "" := by
  simp [checkText, checkPresent, refuse_eq_ok]

theorem checkRange_eq_ok {value low high : Int} {path : String} :
    checkRange value low high path = .ok () ↔ low ≤ value ∧ value ≤ high := by
  simp [checkRange, refuse_eq_ok]

namespace Pool

/-- A pool whose fields are there and in their ranges. -/
structure WellShaped (p : Pool) : Prop where
  name : p.name ≠ ""
  count : 1 ≤ p.count ∧ p.count ≤ 100
  vmSize : p.vmSize ≠ ""
  osDiskSize : 0 ≤ p.osDiskSizeGB ∧ p.osDiskSizeGB ≤ maxDiskSize
  ports : ∀ port ∈ p.ports, 1 ≤ port ∧ port ≤ 65535
  diskCount : p.diskSizesGB.length ≤ maxDataDisks
  diskSizes : ∀ size ∈ p.diskSizesGB, 1 ≤ size ∧ size ≤ maxDiskSize

/-- The field rules hold of a pool iff it is well shaped. -/
theorem checkFields_eq_ok {position : Int} {p : Pool} :
    p.checkFields position = .ok () ↔ p.WellShaped := by
  simp only [checkFields, then_eq_ok, checkText_eq_ok, checkRange_eq_ok, checkEach_eq_ok,
    refuse_eq_ok, decide_eq_false_iff_not, Nat.not_lt]
  constructor
  · rintro ⟨hname, hcount, hvmSize, hosDisk, hports, hdisks, hsizes⟩
    exact ⟨hname, hcount, hvmSize, hosDisk, hports, hdisks, hsizes⟩
  · intro h
    exact ⟨h.name, h.count, h.vmSize, h.osDiskSize, h.ports, h.diskCount, h.diskSizes⟩

theorem checkAllFields_eq_ok {position : Nat} {ps : List Pool} :
    checkAllFields position ps = .ok () ↔ ∀ p ∈ ps, p.WellShaped := by
  induction ps generalizing position with
  | nil => simp [checkAllFields]
  | cons p ps ih => rw [checkAllFields, then_eq_ok, checkFields_eq_ok, ih, List.forall_mem_cons]

end Pool

end ClusterPlan
