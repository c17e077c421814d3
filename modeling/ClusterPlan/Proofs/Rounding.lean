import ClusterPlan.Binary64
import Mathlib.Data.Int.Log
import Mathlib.Data.Rat.Floor
import Mathlib.Tactic.Linarith
import Mathlib.Tactic.Positivity
import Mathlib.Tactic.GCongr
import Mathlib.Tactic.Ring
import Mathlib.Tactic.NormNum

/-!
# Rounding of positive quotients

The conversion of a quotient and the division of two numbers are computed with significands and
exponents. Here they are related to one function on the rationals: `rounded x` is the number of 53
significant bits that is nearest to `x`, with the even significand on a tie. Away from the ends of
the exponent range both operations give `rounded` of the exact result (`Binary64.denotes_ofRatio`,
`Binary64.denotes_div`).

The error of `rounded` is at most `2 ^ (-53)` of the value (`abs_rounded_sub_le`), it is monotone
(`rounded_mono`), and it commutes with powers of two (`rounded_two_zpow_mul`). So a quotient of
rounded numbers, itself rounded, is on the right side of a number that it is not too close to
(`rounded_div_lt`, `le_rounded_div`), and of a power of two in any case
(`two_zpow_le_rounded_div`).
-/

namespace ClusterPlan

/-! ## Rounding to an integer -/

/-- The integer nearest to a rational, the even one of two that are equally near. -/
def halfEven (x : ℚ) : ℤ :=
  if Int.fract x < 1 / 2 then ⌊x⌋
  else if 1 / 2 < Int.fract x then ⌊x⌋ + 1
  else if Even ⌊x⌋ then ⌊x⌋
  else ⌊x⌋ + 1

theorem halfEven_intCast (i : ℤ) : halfEven i = i := by
  rw [halfEven, Int.fract_intCast, if_pos (by norm_num), Int.floor_intCast]

/-- The nearest integer is the floor or the one above. -/
theorem floor_le_halfEven (x : ℚ) : ⌊x⌋ ≤ halfEven x := by
  unfold halfEven
  split_ifs <;> omega

theorem halfEven_le_floor_add_one (x : ℚ) : halfEven x ≤ ⌊x⌋ + 1 := by
  unfold halfEven
  split_ifs <;> omega

theorem abs_halfEven_sub_le (x : ℚ) : |(halfEven x : ℚ) - x| ≤ 1 / 2 := by
  have hx := Int.floor_add_fract x
  have hlow := Int.fract_nonneg x
  have hhigh := Int.fract_lt_one x
  rw [abs_le]
  unfold halfEven
  split_ifs with hbelow habove
  · constructor <;> linarith
  · push_cast
    constructor <;> linarith
  · constructor <;> linarith
  · push_cast
    constructor <;> linarith

theorem halfEven_mono {x y : ℚ} (h : x ≤ y) : halfEven x ≤ halfEven y := by
  rcases (Int.floor_le_floor h).lt_or_eq with hlt | heq
  · have hx := halfEven_le_floor_add_one x
    have hy := floor_le_halfEven y
    omega
  · have hfract : Int.fract x ≤ Int.fract y := by
      rw [Int.fract, Int.fract, heq]
      linarith
    unfold halfEven
    rw [heq]
    split_ifs <;> first | omega | linarith

/-- The rounding of quotients of natural numbers is the rounding of rationals. -/
theorem roundHalfEven_eq_halfEven (num : ℕ) {den : ℕ} (hden : 0 < den) :
    (Binary64.roundHalfEven num den : ℤ) = halfEven (num / den : ℚ) := by
  have hden' : (0 : ℚ) < den := by exact_mod_cast hden
  have hfloor : ⌊(num / den : ℚ)⌋ = ((num / den : ℕ) : ℤ) := by
    rw [Rat.floor_natCast_div_natCast]
    norm_cast
  have hfract : Int.fract (num / den : ℚ) = ((num % den : ℕ) : ℚ) / den := by
    have hsplit : (num : ℚ) = den * (num / den : ℕ) + (num % den : ℕ) := by
      exact_mod_cast (Nat.div_add_mod num den).symm
    rw [Int.fract, hfloor, Int.cast_natCast, eq_div_iff hden'.ne', sub_mul,
      div_mul_cancel₀ _ hden'.ne']
    linarith
  have hbelow : (2 * (num % den) < den) ↔ Int.fract (num / den : ℚ) < 1 / 2 := by
    rw [hfract, div_lt_div_iff₀ hden' two_pos]
    norm_cast
    rw [one_mul, Nat.mul_comm]
  have habove : (den < 2 * (num % den)) ↔ 1 / 2 < Int.fract (num / den : ℚ) := by
    rw [hfract, div_lt_div_iff₀ two_pos hden']
    norm_cast
    rw [one_mul, Nat.mul_comm]
  have heven : (num / den) % 2 = 0 ↔ Even ⌊(num / den : ℚ)⌋ := by
    rw [hfloor, Int.even_coe_nat, Nat.even_iff]
  simp only [Binary64.roundHalfEven, halfEven, hbelow, habove, heven, hfloor]
  split_ifs <;> simp

/-! ## Rounding to 53 bits -/

/-- The power of two for which the significand of a positive rational has 53 bits. -/
def unitExponent (x : ℚ) : ℤ := Int.log 2 x - 52

/-- The number of 53 significant bits nearest to a positive rational. -/
def rounded (x : ℚ) : ℚ := halfEven (x / 2 ^ unitExponent x) * 2 ^ unitExponent x

section rounded

variable {x y : ℚ}

theorem two_zpow_pos (k : ℤ) : (0 : ℚ) < 2 ^ k := zpow_pos two_pos k

theorem two_zpow_log_le (hx : 0 < x) : (2 : ℚ) ^ Int.log 2 x ≤ x := by
  simpa using Int.zpow_log_le_self one_lt_two hx

theorem lt_two_zpow_log (x : ℚ) : x < (2 : ℚ) ^ (Int.log 2 x + 1) := by
  simpa using Int.lt_zpow_succ_log_self one_lt_two x

theorem le_log_iff {k : ℤ} (hx : 0 < x) : k ≤ Int.log 2 x ↔ (2 : ℚ) ^ k ≤ x := by
  rw [← Int.zpow_le_iff_le_log one_lt_two hx, Nat.cast_ofNat]

theorem log_lt_iff {k : ℤ} (hx : 0 < x) : Int.log 2 x < k ↔ x < (2 : ℚ) ^ k := by
  rw [← Int.lt_zpow_iff_log_lt one_lt_two hx, Nat.cast_ofNat]

/-- The logarithm is determined by the powers of two around a number. -/
theorem log_eq {k : ℤ} (hlow : (2 : ℚ) ^ k ≤ x) (hhigh : x < 2 ^ (k + 1)) : Int.log 2 x = k := by
  have hx : 0 < x := (two_zpow_pos k).trans_le hlow
  have hle : k ≤ Int.log 2 x := (le_log_iff hx).2 hlow
  have hlt : Int.log 2 x < k + 1 := (log_lt_iff hx).2 hhigh
  omega

/-- Rounding moves a number by at most `2 ^ (-53)` of it. -/
theorem abs_rounded_sub_le (hx : 0 < x) : |rounded x - x| ≤ x / 2 ^ 53 := by
  have hunit := two_zpow_pos (unitExponent x)
  have hsplit : rounded x - x =
      (halfEven (x / 2 ^ unitExponent x) - x / 2 ^ unitExponent x) * 2 ^ unitExponent x := by
    rw [rounded, sub_mul, div_mul_cancel₀ _ hunit.ne']
  have hulp : (2 : ℚ) ^ unitExponent x = 2 ^ Int.log 2 x / 2 ^ 52 := by
    rw [unitExponent, zpow_sub₀ two_ne_zero]
    norm_cast
  calc |rounded x - x|
      = |(halfEven (x / 2 ^ unitExponent x) : ℚ) - x / 2 ^ unitExponent x| *
          2 ^ unitExponent x := by rw [hsplit, abs_mul, abs_of_pos hunit]
    _ ≤ 1 / 2 * (2 ^ Int.log 2 x / 2 ^ 52) := by
        rw [← hulp]
        exact mul_le_mul_of_nonneg_right (abs_halfEven_sub_le _) hunit.le
    _ ≤ 1 / 2 * (x / 2 ^ 52) := by
        gcongr
        exact two_zpow_log_le hx
    _ = x / 2 ^ 53 := by ring

theorem rounded_le (hx : 0 < x) : rounded x ≤ (1 + 1 / 2 ^ 53) * x := by
  have herror := (abs_le.1 (abs_rounded_sub_le hx)).2
  linarith

theorem le_rounded (hx : 0 < x) : (1 - 1 / 2 ^ 53) * x ≤ rounded x := by
  have herror := (abs_le.1 (abs_rounded_sub_le hx)).1
  linarith

theorem rounded_pos (hx : 0 < x) : 0 < rounded x :=
  (mul_pos (by norm_num) hx).trans_le (le_rounded hx)

/-- In units of its last place a number has 53 bits before the point. -/
theorem two_pow_le_div_unit (hx : 0 < x) : (2 : ℚ) ^ 52 ≤ x / 2 ^ unitExponent x := by
  rw [le_div_iff₀ (two_zpow_pos _), unitExponent, ← zpow_natCast, ← zpow_add₀ two_ne_zero]
  calc (2 : ℚ) ^ (((52 : ℕ) : ℤ) + (Int.log 2 x - 52))
      = 2 ^ Int.log 2 x := by congr 1; push_cast; ring
    _ ≤ x := two_zpow_log_le hx

theorem div_unit_lt_two_pow (x : ℚ) : x / 2 ^ unitExponent x < (2 : ℚ) ^ 53 := by
  rw [div_lt_iff₀ (two_zpow_pos _), unitExponent, ← zpow_natCast, ← zpow_add₀ two_ne_zero]
  calc x < (2 : ℚ) ^ (Int.log 2 x + 1) := lt_two_zpow_log x
    _ = 2 ^ (((53 : ℕ) : ℤ) + (Int.log 2 x - 52)) := by congr 1; push_cast; ring

/-- The significand has 53 bits, or it is the least number that has more. -/
theorem two_pow_le_significand (hx : 0 < x) : 2 ^ 52 ≤ halfEven (x / 2 ^ unitExponent x) := by
  have h : ((2 ^ 52 : ℤ) : ℚ) ≤ x / 2 ^ unitExponent x := by exact_mod_cast two_pow_le_div_unit hx
  rw [← halfEven_intCast (2 ^ 52)]
  exact halfEven_mono h

theorem significand_le_two_pow (x : ℚ) : halfEven (x / 2 ^ unitExponent x) ≤ 2 ^ 53 := by
  have h : x / 2 ^ unitExponent x ≤ ((2 ^ 53 : ℤ) : ℚ) := by
    exact_mod_cast (div_unit_lt_two_pow x).le
  rw [← halfEven_intCast (2 ^ 53)]
  exact halfEven_mono h

/-- The powers of two around a number are around the rounded number too. -/
theorem two_zpow_log_le_rounded (hx : 0 < x) : (2 : ℚ) ^ Int.log 2 x ≤ rounded x := by
  have hsignificand : ((2 : ℚ) ^ 52) ≤ halfEven (x / 2 ^ unitExponent x) := by
    exact_mod_cast two_pow_le_significand hx
  calc (2 : ℚ) ^ Int.log 2 x
      = 2 ^ 52 * 2 ^ unitExponent x := by
        rw [unitExponent, ← zpow_natCast, ← zpow_add₀ two_ne_zero]
        congr 1
        push_cast
        ring
    _ ≤ rounded x := mul_le_mul_of_nonneg_right hsignificand (two_zpow_pos _).le

theorem rounded_le_two_zpow_log (x : ℚ) : rounded x ≤ (2 : ℚ) ^ (Int.log 2 x + 1) := by
  have hsignificand : (halfEven (x / 2 ^ unitExponent x) : ℚ) ≤ 2 ^ 53 := by
    exact_mod_cast significand_le_two_pow x
  calc rounded x
      ≤ 2 ^ 53 * 2 ^ unitExponent x :=
        mul_le_mul_of_nonneg_right hsignificand (two_zpow_pos _).le
    _ = 2 ^ (Int.log 2 x + 1) := by
        rw [unitExponent, ← zpow_natCast, ← zpow_add₀ two_ne_zero]
        congr 1
        push_cast
        ring

theorem rounded_mono (hx : 0 < x) (h : x ≤ y) : rounded x ≤ rounded y := by
  rcases (Int.log_mono_right hx h).lt_or_eq with hlt | heq
  · calc rounded x
        ≤ 2 ^ (Int.log 2 x + 1) := rounded_le_two_zpow_log x
      _ ≤ 2 ^ Int.log 2 y := zpow_le_zpow_right₀ one_le_two hlt
      _ ≤ rounded y := two_zpow_log_le_rounded (hx.trans_le h)
  · have hunit : unitExponent x = unitExponent y := by rw [unitExponent, unitExponent, heq]
    rw [rounded, rounded, hunit]
    have hpos := two_zpow_pos (unitExponent y)
    have hround : halfEven (x / 2 ^ unitExponent y) ≤ halfEven (y / 2 ^ unitExponent y) :=
      halfEven_mono (by gcongr)
    exact mul_le_mul_of_nonneg_right (by exact_mod_cast hround) hpos.le

/-- A power of two as a factor does not matter. -/
theorem rounded_two_zpow_mul (k : ℤ) (hx : 0 < x) : rounded (2 ^ k * x) = 2 ^ k * rounded x := by
  have hlog : Int.log 2 (2 ^ k * x) = k + Int.log 2 x := by
    apply log_eq
    · rw [zpow_add₀ two_ne_zero]
      exact mul_le_mul_of_nonneg_left (two_zpow_log_le hx) (two_zpow_pos k).le
    · rw [add_assoc, zpow_add₀ two_ne_zero]
      exact mul_lt_mul_of_pos_left (lt_two_zpow_log x) (two_zpow_pos k)
  have hunit : unitExponent (2 ^ k * x) = k + unitExponent x := by
    rw [unitExponent, unitExponent, hlog, add_sub_assoc]
  rw [rounded, rounded, hunit, zpow_add₀ two_ne_zero,
    mul_div_mul_left _ _ (two_zpow_pos k).ne', mul_left_comm]

theorem rounded_two_zpow (k : ℤ) : rounded (2 ^ k) = 2 ^ k := by
  have hlog : Int.log 2 ((2 : ℚ) ^ k) = k :=
    log_eq le_rfl (zpow_lt_zpow_right₀ one_lt_two (lt_add_one k))
  have hsignificand : (2 : ℚ) ^ k / 2 ^ unitExponent (2 ^ k) = ((2 ^ 52 : ℤ) : ℚ) := by
    rw [unitExponent, hlog, ← zpow_sub₀ two_ne_zero, sub_sub_cancel]
    norm_cast
  rw [rounded, hsignificand, halfEven_intCast, ← hsignificand,
    div_mul_cancel₀ _ (two_zpow_pos _).ne']

/-! ## Quotients of rounded numbers -/

/-- A quotient below a number by more than three roundings can make up for. -/
theorem rounded_div_lt {r : ℚ} (hx : 0 < x) (hy : 0 < y) (hr : 0 < r)
    (h : x ≤ (1 - 1 / 2 ^ 51) * (r * y)) : rounded (rounded x / rounded y) < r := by
  have hpos := rounded_pos hy
  refine (rounded_le (div_pos (rounded_pos hx) hpos)).trans_lt ?_
  rw [← mul_div_assoc, div_lt_iff₀ hpos]
  calc (1 + 1 / 2 ^ 53) * rounded x
      ≤ (1 + 1 / 2 ^ 53) * ((1 + 1 / 2 ^ 53) * x) := by
        gcongr
        exact rounded_le hx
    _ ≤ (1 + 1 / 2 ^ 53) * ((1 + 1 / 2 ^ 53) * ((1 - 1 / 2 ^ 51) * (r * y))) := by gcongr
    _ = (1 + 1 / 2 ^ 53) * (1 + 1 / 2 ^ 53) * (1 - 1 / 2 ^ 51) * (r * y) := by ring
    _ < (1 - 1 / 2 ^ 53) * (r * y) := mul_lt_mul_of_pos_right (by norm_num) (mul_pos hr hy)
    _ = r * ((1 - 1 / 2 ^ 53) * y) := by ring
    _ ≤ r * rounded y := by
        gcongr
        exact le_rounded hy

/-- A quotient above a number by more than three roundings can take away. -/
theorem le_rounded_div {r : ℚ} (hx : 0 < x) (hy : 0 < y) (hr : 0 < r)
    (h : (1 + 1 / 2 ^ 51) * (r * y) ≤ x) : r ≤ rounded (rounded x / rounded y) := by
  have hpos := rounded_pos hy
  refine le_trans ?_ (le_rounded (div_pos (rounded_pos hx) hpos))
  rw [← mul_div_assoc, le_div_iff₀ hpos]
  calc r * rounded y
      ≤ r * ((1 + 1 / 2 ^ 53) * y) := by
        gcongr
        exact rounded_le hy
    _ = (1 + 1 / 2 ^ 53) * (r * y) := by ring
    _ ≤ (1 - 1 / 2 ^ 53) * (1 - 1 / 2 ^ 53) * (1 + 1 / 2 ^ 51) * (r * y) :=
        mul_le_mul_of_nonneg_right (by norm_num) (mul_pos hr hy).le
    _ = (1 - 1 / 2 ^ 53) * ((1 - 1 / 2 ^ 53) * ((1 + 1 / 2 ^ 51) * (r * y))) := by ring
    _ ≤ (1 - 1 / 2 ^ 53) * ((1 - 1 / 2 ^ 53) * x) :=
        mul_le_mul_of_nonneg_left (mul_le_mul_of_nonneg_left h (by norm_num)) (by norm_num)
    _ ≤ (1 - 1 / 2 ^ 53) * rounded x := mul_le_mul_of_nonneg_left (le_rounded hx) (by norm_num)

/-- A quotient that reaches a power of two is not rounded below it. -/
theorem two_zpow_le_rounded_div {k : ℤ} (hy : 0 < y) (h : 2 ^ k * y ≤ x) :
    2 ^ k ≤ rounded (rounded x / rounded y) := by
  have hmultiple : 2 ^ k * rounded y ≤ rounded x := by
    rw [← rounded_two_zpow_mul k hy]
    exact rounded_mono (mul_pos (two_zpow_pos k) hy) h
  have hquotient : (2 : ℚ) ^ k ≤ rounded x / rounded y :=
    (le_div_iff₀ (rounded_pos hy)).2 hmultiple
  calc (2 : ℚ) ^ k
      = rounded (2 ^ k) := (rounded_two_zpow k).symm
    _ ≤ rounded (rounded x / rounded y) := rounded_mono (two_zpow_pos k) hquotient

end rounded

/-! ## Conversion and division -/

namespace Binary64

/-- A number is finite and has a given sign and magnitude. -/
def Denotes (b : Binary64) (negative : Bool) (x : ℚ) : Prop :=
  ∃ m e, b = finite negative m e ∧ (m : ℚ) * 2 ^ e = x

/-- A magnitude far from the ends of the exponent range. -/
structure IsNormal (x : ℚ) : Prop where
  low : (2 : ℚ) ^ (-1022 : ℤ) ≤ x
  high : x < (2 : ℚ) ^ (1022 : ℤ)

theorem IsNormal.of_zpow {x : ℚ} {k l : ℤ} (hlow : (2 : ℚ) ^ k ≤ x) (hhigh : x < (2 : ℚ) ^ l)
    (hk : -1022 ≤ k) (hl : l ≤ 1022) : IsNormal x where
  low := (zpow_le_zpow_right₀ one_le_two hk).trans hlow
  high := hhigh.trans_le (zpow_le_zpow_right₀ one_le_two hl)

section quotients

variable {num den : ℕ}

theorem scale_snd_pos (num : ℕ) (hden : 0 < den) (e : ℤ) : 0 < (scale num den e).2 := by
  unfold scale
  split_ifs
  · exact hden
  · exact Nat.mul_pos hden (Nat.two_pow_pos _)

theorem scale_fst_pos (hnum : 0 < num) (den : ℕ) (e : ℤ) : 0 < (scale num den e).1 := by
  unfold scale
  split_ifs
  · exact Nat.mul_pos hnum (Nat.two_pow_pos _)
  · exact hnum

/-- Scaling a quotient divides it by the power of two. -/
theorem scale_eq (num den : ℕ) (e : ℤ) :
    ((scale num den e).1 : ℚ) / (scale num den e).2 = num / den / 2 ^ e := by
  unfold scale
  split_ifs with he
  · obtain ⟨k, hk⟩ := Int.eq_ofNat_of_zero_le (a := -e) (by omega)
    obtain rfl : e = -k := by omega
    simp only [neg_neg, Int.toNat_natCast, twoTo, Nat.pow_eq]
    push_cast
    rw [zpow_neg, zpow_natCast, div_inv_eq_mul, div_mul_eq_mul_div]
  · obtain ⟨k, rfl⟩ := Int.eq_ofNat_of_zero_le (not_lt.1 he)
    simp only [Int.toNat_natCast, twoTo, Nat.pow_eq]
    push_cast
    rw [zpow_natCast, div_div]

/-- The lengths of two numbers give their quotient up to a factor of two in either direction. -/
theorem two_zpow_log2_sub_le (hnum : 0 < num) (hden : 0 < den) :
    (2 : ℚ) ^ ((Nat.log2 num : ℤ) - Nat.log2 den - 1) ≤ num / den := by
  have hden' : (0 : ℚ) < den := by exact_mod_cast hden
  have hn : (2 : ℚ) ^ Nat.log2 num ≤ num := by exact_mod_cast Nat.log2_self_le hnum.ne'
  have hd : (den : ℚ) ≤ 2 ^ (Nat.log2 den + 1) := by exact_mod_cast Nat.lt_log2_self.le
  calc (2 : ℚ) ^ ((Nat.log2 num : ℤ) - Nat.log2 den - 1)
      = 2 ^ Nat.log2 num / 2 ^ (Nat.log2 den + 1) := by
        rw [← zpow_natCast, ← zpow_natCast, ← zpow_sub₀ two_ne_zero, sub_sub, Nat.cast_succ]
    _ ≤ num / den := by gcongr

theorem lt_two_zpow_log2_sub (num : ℕ) (hden : 0 < den) :
    (num / den : ℚ) < 2 ^ ((Nat.log2 num : ℤ) - Nat.log2 den + 1) := by
  have hn : (num : ℚ) < 2 ^ (Nat.log2 num + 1) := by exact_mod_cast Nat.lt_log2_self
  have hd : (2 : ℚ) ^ Nat.log2 den ≤ den := by exact_mod_cast Nat.log2_self_le hden.ne'
  calc (num / den : ℚ)
      < 2 ^ (Nat.log2 num + 1) / 2 ^ Nat.log2 den := by gcongr
    _ = 2 ^ ((Nat.log2 num : ℤ) - Nat.log2 den + 1) := by
        rw [← zpow_natCast, ← zpow_natCast, ← zpow_sub₀ two_ne_zero, Nat.cast_succ,
          add_sub_right_comm]

/-- The integer division of a scaled quotient shows whether it has a number of bits. -/
theorem twoTo_le_scale_iff (hden : 0 < den) (e : ℤ) (k : ℕ) :
    twoTo k ≤ (scale num den e).1 / (scale num den e).2 ↔ (2 : ℚ) ^ (e + k) ≤ num / den := by
  have hpos := scale_snd_pos num hden e
  have hpos' : (0 : ℚ) < (scale num den e).2 := by exact_mod_cast hpos
  rw [Nat.le_div_iff_mul_le hpos, zpow_add₀ two_ne_zero, mul_comm ((2 : ℚ) ^ e),
    ← le_div_iff₀ (two_zpow_pos e), ← scale_eq, le_div_iff₀ hpos', zpow_natCast, twoTo, Nat.pow_eq]
  norm_cast

/-- The exponent of a quotient is found from the lengths of its terms. -/
theorem exponentOf_eq (hnum : 0 < num) (hden : 0 < den)
    (hlow : (2 : ℚ) ^ (-1022 : ℤ) ≤ num / den) : exponentOf num den = unitExponent (num / den) := by
  have hpos : (0 : ℚ) < num / den := (two_zpow_pos _).trans_le hlow
  have hleast : -1022 ≤ Int.log 2 (num / den : ℚ) := (le_log_iff hpos).2 hlow
  have hbelow := two_zpow_log2_sub_le hnum hden
  have habove := lt_two_zpow_log2_sub num hden
  unfold exponentOf
  dsimp only
  -- The guess is one too low if the quotient has 54 bits when it is scaled by it.
  by_cases hlong : (2 : ℚ) ^ ((Nat.log2 num : ℤ) - Nat.log2 den - 53 + (53 : ℕ)) ≤ num / den
  · rw [if_pos ((twoTo_le_scale_iff hden _ 53).2 hlong)]
    rw [Nat.cast_ofNat, sub_add_cancel] at hlong
    have hlog := log_eq hlong habove
    rw [unitExponent, minExponent]
    omega
  · rw [if_neg (mt (twoTo_le_scale_iff hden _ 53).1 hlong)]
    rw [Nat.cast_ofNat, sub_add_cancel, not_le] at hlong
    have hlog := log_eq hbelow (by rwa [sub_add_cancel])
    rw [unitExponent, minExponent]
    omega

/-- The conversion of a quotient rounds it. -/
theorem denotes_ofRatio (negative : Bool) (hnum : 0 < num) (hden : 0 < den)
    (h : IsNormal (num / den)) :
    (ofRatio negative num den).Denotes negative (rounded (num / den)) := by
  have hpos : (0 : ℚ) < num / den := (two_zpow_pos _).trans_le h.low
  have hhigh : Int.log 2 (num / den : ℚ) < 1022 := (log_lt_iff hpos).2 h.high
  have hsignificand : (roundHalfEven (scale num den (unitExponent (num / den))).1
      (scale num den (unitExponent (num / den))).2 : ℤ) =
        halfEven (num / den / 2 ^ unitExponent (num / den)) := by
    rw [roundHalfEven_eq_halfEven _ (scale_snd_pos num hden _), scale_eq]
  have hvalue : ((roundHalfEven (scale num den (unitExponent (num / den))).1
      (scale num den (unitExponent (num / den))).2 : ℕ) : ℚ) * 2 ^ unitExponent (num / den) =
        rounded (num / den) := by
    rw [rounded, ← hsignificand, Int.cast_natCast]
  unfold ofRatio
  rw [if_neg hnum.ne', exponentOf_eq hnum hden h.low]
  dsimp only
  generalize roundHalfEven _ _ = significand at hvalue ⊢
  by_cases hcarry : significand = twoTo 53
  · rw [if_pos hcarry, if_neg (by simp only [maxExponent, unitExponent]; omega)]
    refine ⟨_, _, rfl, ?_⟩
    rw [← hvalue, hcarry, zpow_add₀ two_ne_zero]
    simp only [twoTo, Nat.pow_eq]
    push_cast
    ring
  · rw [if_neg hcarry, if_neg (by simp only [maxExponent, unitExponent]; omega)]
    exact ⟨_, _, rfl, hvalue⟩

/-- The division rounds the quotient of the magnitudes. -/
theorem denotes_div {a b : Binary64} {s t : Bool} {x y : ℚ} (ha : a.Denotes s x)
    (hb : b.Denotes t y) (hx : 0 < x) (hy : 0 < y) (h : IsNormal (x / y)) :
    (a.div b).Denotes (s != t) (rounded (x / y)) := by
  obtain ⟨m, e, rfl, rfl⟩ := ha
  obtain ⟨n, f, rfl, rfl⟩ := hb
  have hm : 0 < m := by exact_mod_cast pos_of_mul_pos_left hx (two_zpow_pos e).le
  have hn : 0 < n := by exact_mod_cast pos_of_mul_pos_left hy (two_zpow_pos f).le
  have hquotient : (m * 2 ^ e / (n * 2 ^ f) : ℚ) =
      (scale m n (f - e)).1 / (scale m n (f - e)).2 := by
    rw [scale_eq, zpow_sub₀ two_ne_zero, mul_div_mul_comm, div_div_eq_mul_div, mul_div_assoc]
  rw [hquotient] at h ⊢
  have hden := scale_snd_pos m hn (f - e)
  have hnum := scale_fst_pos hm n (f - e)
  rw [div, if_neg hn.ne']
  exact denotes_ofRatio _ hnum hden h

/-- Zero divided by a number is zero. -/
theorem denotes_zero_div {a b : Binary64} {s t : Bool} {y : ℚ} (ha : a.Denotes s 0)
    (hb : b.Denotes t y) (hy : 0 < y) : (a.div b).Denotes (s != t) 0 := by
  obtain ⟨m, e, rfl, hm⟩ := ha
  obtain ⟨n, f, rfl, rfl⟩ := hb
  have hn : 0 < n := by exact_mod_cast pos_of_mul_pos_left hy (two_zpow_pos f).le
  obtain rfl : m = 0 := by simpa [(two_zpow_pos e).ne'] using hm
  have hnum : (scale 0 n (f - e)).1 = 0 := by
    unfold scale
    split_ifs
    · exact Nat.zero_mul _
    · rfl
  rw [div, if_neg hn.ne']
  dsimp only
  rw [ofRatio, if_pos hnum]
  exact ⟨0, minExponent, rfl, by simp⟩

theorem isZero_eq_false {b : Binary64} {negative : Bool} {x : ℚ} (h : b.Denotes negative x)
    (hx : 0 < x) : b.isZero = false := by
  obtain ⟨m, e, rfl, rfl⟩ := h
  have hm : m ≠ 0 := by
    rintro rfl
    simp at hx
  simpa [isZero] using hm

/-- The comparison with an integer is exact. -/
theorem ltInt_iff {b : Binary64} {negative : Bool} {x : ℚ} (h : b.Denotes negative x) (i : ℤ) :
    b.ltInt i = true ↔ (if negative then -x else x) < i := by
  obtain ⟨m, e, rfl, rfl⟩ := h
  have hvalue : ((ratio m e).1 : ℚ) / (ratio m e).2 = m * 2 ^ e := by
    rw [ratio, scale_eq, Nat.cast_one, div_one, zpow_neg, div_inv_eq_mul]
  have hden : (0 : ℚ) < (ratio m e).2 := by exact_mod_cast scale_snd_pos m one_pos (-e)
  rw [← hvalue]
  simp only [ltInt, decide_eq_true_eq]
  cases negative with
  | false =>
    simp only [Bool.false_eq_true, if_false]
    rw [div_lt_iff₀ hden]
    norm_cast
  | true =>
    simp only [if_true]
    rw [← neg_div, div_lt_iff₀ hden]
    norm_cast

end quotients

end Binary64

end ClusterPlan
