import ClusterPlan.Proofs.Verdict
import ClusterPlan.Rules.Release
import Mathlib.Order.Compare

/-!
# The order of versions

Versions are compared part by part, and the parts that a version may lack are ranked below or above
all values. Each of these comparisons is total and transitive, so `Version.compare` is
(`Std.TransCmp`), and "at least as new" is a preorder (`Version.atLeast_trans`).

The rules compare texts. `AtLeast` is the same relation on texts: both denote versions, and the
first one is at least as new. A rule with a minimum version holds iff the relation does
(`checkMinimum_eq_ok`), so it keeps holding when the version becomes newer (`AtLeast.trans`).
-/

namespace ClusterPlan

open Std

/-! ## Comparisons of the parts -/

section comparisons

variable {α β : Type} {cmp cmp' : α → α → Ordering}

/-- A feature of the values is compared. -/
theorem transCmp_on (h : TransCmp cmp) (f : β → α) : TransCmp fun a b => cmp (f a) (f b) where
  eq_swap := OrientedCmp.eq_swap
  isLE_trans := TransCmp.isLE_trans

/-- One comparison decides, and another one where it does not. -/
theorem transCmp_then (h : TransCmp cmp) (h' : TransCmp cmp') :
    TransCmp fun a b => (cmp a b).then (cmp' a b) :=
  inferInstanceAs (TransCmp (compareLex cmp cmp'))

theorem Bounded.transCmp_compare (h : TransCmp cmp) : TransCmp (Bounded.compare cmp) where
  eq_swap {x y} := by
    cases x <;> cases y
    case value.value a b =>
      show cmp a b = (cmp b a).swap
      exact OrientedCmp.eq_swap
    all_goals rfl
  isLE_trans {x y z} hxy hyz := by
    cases x <;> cases y <;> cases z
    case value.value.value a b c =>
      have hab : (cmp a b).isLE = true := hxy
      have hbc : (cmp b c).isLE = true := hyz
      show (cmp a c).isLE = true
      exact TransCmp.isLE_trans hab hbc
    -- an end among the three decides
    all_goals simp_all [Bounded.compare]

namespace Version

theorem compareLists_eq_compareLex (as bs : List α) :
    compareLists cmp as bs = List.compareLex cmp as bs := by
  induction as generalizing bs with
  | nil => cases bs <;> rfl
  | cons a as ih =>
    cases bs with
    | nil => rfl
    | cons b bs =>
      rw [compareLists, ih, List.compareLex]
      cases cmp a b <;> rfl

theorem transCmp_compareLists (h : TransCmp cmp) : TransCmp (compareLists cmp) := by
  have heq : compareLists cmp = List.compareLex cmp :=
    funext fun as => funext (compareLists_eq_compareLex as)
  rw [heq]
  infer_instance

end Version

end comparisons

/-! ## Versions -/

namespace Version

/-- Numbers are compared as usual. -/
theorem transCmp_nat : TransCmp (Ord.compare : Nat → Nat → Ordering) := inferInstance

theorem transCmp_comparePre : TransCmp comparePre :=
  transCmp_then (transCmp_on transCmp_nat fun a : Phase × Nat => a.1.rank)
    (transCmp_on transCmp_nat Prod.snd)

theorem transCmp_compareLabel : TransCmp compareLabel where
  eq_swap {x y} := by
    have hwords := transCmp_compareLists (transCmp_on transCmp_nat Char.toNat)
    cases x <;> cases y
    case word.word a b => exact hwords.eq_swap
    case number.number a b => exact transCmp_nat.eq_swap
    all_goals rfl
  isLE_trans {x y z} hxy hyz := by
    have hwords := transCmp_compareLists (transCmp_on transCmp_nat Char.toNat)
    cases x <;> cases y <;> cases z
    case word.word.word a b c => exact hwords.isLE_trans hxy hyz
    case number.number.number a b c => exact transCmp_nat.isLE_trans hxy hyz
    -- words come before numbers
    all_goals simp_all [compareLabel]

/-- The order of versions is total and transitive. -/
theorem transCmp_compare : TransCmp compare :=
  transCmp_then (transCmp_on transCmp_nat Version.epoch) <|
  transCmp_then (transCmp_on (transCmp_compareLists transCmp_nat)
    fun v : Version => significant v.numbers) <|
  transCmp_then (transCmp_on (Bounded.transCmp_compare transCmp_comparePre) preRank) <|
  transCmp_then (transCmp_on (Bounded.transCmp_compare transCmp_nat) postRank) <|
  transCmp_then (transCmp_on (Bounded.transCmp_compare transCmp_nat) devRank) <|
  transCmp_on (Bounded.transCmp_compare (transCmp_compareLists transCmp_compareLabel)) buildRank

theorem atLeast_eq_isGE (v w : Version) : v.atLeast w = (compare v w).isGE := by
  unfold atLeast
  cases compare v w <;> rfl

theorem atLeast_trans {u v w : Version} (huv : u.atLeast v = true) (hvw : v.atLeast w = true) :
    u.atLeast w = true := by
  rw [atLeast_eq_isGE] at huv hvw ⊢
  have := transCmp_compare
  exact TransCmp.isGE_trans huv hvw

end Version

/-! ## Texts -/

/-- A text that denotes a version at least as new as the one that another text denotes, one leading
letter `v` of either aside. -/
def AtLeast (text minimum : String) : Prop :=
  ∃ v w, Version.read (Catalogue.dropV text) = .ok v ∧
    Version.read (Catalogue.dropV minimum) = .ok w ∧ v.atLeast w = true

theorem AtLeast.trans {u v w : String} (huv : AtLeast u v) (hvw : AtLeast v w) : AtLeast u w := by
  obtain ⟨a, b, hu, hv, hab⟩ := huv
  obtain ⟨b', c, hv', hw, hbc⟩ := hvw
  obtain rfl : b = b' := Except.ok.inj (hv.symm.trans hv')
  exact ⟨a, c, hu, hw, Version.atLeast_trans hab hbc⟩

theorem readVersion_eq_ok {text : String} {otherwise : Malformed} {v : Version} :
    readVersion text otherwise = .ok v ↔ Version.read (Catalogue.dropV text) = .ok v := by
  unfold readVersion
  cases Version.read (Catalogue.dropV text) with
  | ok w => simp
  | error fault => cases fault <;> simp

theorem meetsMinimum_eq_true {version minimum : String} :
    meetsMinimum version minimum = .ok true ↔ AtLeast version minimum := by
  unfold meetsMinimum AtLeast
  simp only [bind_eq_ok, readVersion_eq_ok]
  constructor
  · rintro ⟨v, hv, w, hw, hvw⟩
    exact ⟨v, w, hv, hw, Except.ok.inj hvw⟩
  · rintro ⟨v, w, hv, hw, hvw⟩
    exact ⟨v, hv, w, hw, congrArg Except.ok hvw⟩

/-- A rule with a minimum version holds iff the version is at least as new. -/
theorem checkMinimum_eq_ok {version minimum : String} {conflict : Conflict} :
    checkMinimum version minimum conflict = .ok () ↔ AtLeast version minimum := by
  rw [← meetsMinimum_eq_true, checkMinimum, bind_eq_ok]
  simp [refuse_eq_ok]

end ClusterPlan
