import Heartbeat.Binary64
import Mathlib.Algebra.Order.Field.Power
import Mathlib.Data.Rat.Floor
import Mathlib.Tactic.FieldSimp
import Mathlib.Tactic.Linarith
import Mathlib.Tactic.NormNum
import Mathlib.Tactic.Ring

/-!
# Rounding to binary64

`Binary64.round` moves a value by at most half the spacing around it, so by at most `2 ^ (k - 54)`
when the magnitude of the value is below `2 ^ k` (`abs_round_sub_le`). An integer of at most 53 bits
times a power of two is a number of the format and is not moved at all (`round_eq_self`). Both rest
on the exponent of the leading bit, which the bit lengths of numerator and denominator determine up
to one (`zpow_leadingExponent_le`, `lt_zpow_leadingExponent`).

Not treated here: values past the largest finite number, and the neighbour that a tie goes to.
-/

set_option autoImplicit false
set_option relaxedAutoImplicit false

namespace Heartbeat.Binary64

variable {value : ℚ}

/-! ### Rounding to an integer -/

/-- An integer is rounded to itself. -/
theorem roundEven_intCast (integer : ℤ) : roundEven (integer : ℚ) = integer := by
  unfold roundEven
  simp only [Rat.floor_intCast, sub_self]
  rw [if_pos (by norm_num)]

/-- A value is at most a half away from the integer that it is rounded to. -/
theorem abs_roundEven_sub_le (value : ℚ) : |(roundEven value : ℚ) - value| ≤ 1 / 2 := by
  have least : (value.floor : ℚ) ≤ value := Rat.floor_le value
  have most : value < (value.floor : ℚ) + 1 := by
    exact_mod_cast Rat.lt_floor_add_one value
  unfold roundEven
  dsimp only
  rw [abs_le]
  split_ifs with below above even
  · constructor <;> linarith
  · push_cast
    constructor <;> linarith
  · constructor <;> linarith
  · push_cast
    constructor <;> linarith

/-- A value that is not negative is rounded to an integer that is not negative. -/
theorem roundEven_nonneg (nonneg : 0 ≤ value) : 0 ≤ roundEven value := by
  have close := (abs_le.mp (abs_roundEven_sub_le value)).1
  have above : (-1 : ℚ) < roundEven value := by linarith
  have integer : -1 < roundEven value := by exact_mod_cast above
  omega

/-- A value at most a half below a natural number, or less than a half above it, is rounded half up
to it. -/
theorem roundHalfUp_eq {natural : ℕ} (least : (natural : ℚ) ≤ value + 1 / 2)
    (most : value + 1 / 2 < (natural : ℚ) + 1) : roundHalfUp value = natural := by
  have lower : (natural : ℤ) ≤ (value + 1 / 2).floor := by
    rw [Rat.le_floor_iff]
    exact_mod_cast least
  have upper : (value + 1 / 2).floor < (natural : ℤ) + 1 := by
    rw [Rat.floor_lt_iff]
    exact_mod_cast most
  unfold roundHalfUp
  omega

/-- A value less than a half above a natural number is not rounded half up past it. -/
theorem roundHalfUp_le {natural : ℕ} (most : value + 1 / 2 < (natural : ℚ) + 1) :
    roundHalfUp value ≤ natural := by
  have upper : (value + 1 / 2).floor < (natural : ℤ) + 1 := by
    rw [Rat.floor_lt_iff]
    exact_mod_cast most
  unfold roundHalfUp
  omega

/-- The natural number that a value is cut to is the greatest integer that is not above it. -/
theorem natCast_toNat_floor (nonneg : 0 ≤ value) :
    ((value.floor.toNat : ℕ) : ℚ) = (value.floor : ℚ) := by
  have natural : 0 ≤ value.floor := Rat.le_floor_iff.mpr (by exact_mod_cast nonneg)
  exact_mod_cast Int.toNat_of_nonneg natural

/-- A value that is not negative is not below the natural number that it is cut to. -/
theorem toNat_floor_le (nonneg : 0 ≤ value) : (value.floor.toNat : ℚ) ≤ value := by
  rw [natCast_toNat_floor nonneg]
  exact Rat.floor_le value

/-! ### The leading bit -/

theorem twoPow_eq_zpow (exponent : ℤ) : twoPow exponent = (2 : ℚ) ^ exponent := by
  unfold twoPow
  by_cases positive : 0 ≤ exponent
  · rw [if_pos positive]
    obtain ⟨natural, rfl⟩ := Int.eq_ofNat_of_zero_le positive
    simp
  · rw [if_neg positive]
    obtain ⟨natural, opposite⟩ := Int.eq_ofNat_of_zero_le (by omega : 0 ≤ -exponent)
    rw [opposite, ← neg_neg exponent, opposite, zpow_neg]
    simp

theorem magnitude_eq_abs (value : ℚ) : magnitude value = |value| := by
  unfold magnitude
  split
  · next negative => rw [abs_of_neg negative]
  · next other => rw [abs_of_nonneg (not_lt.mp other)]

/-- The guess from the bit lengths is at most one too high, and not too low. -/
theorem abs_mem_guess (nonzero : value ≠ 0) :
    (2 : ℚ) ^ ((value.num.natAbs.log2 : ℤ) - (value.den.log2 : ℤ) - 1) ≤ |value| ∧
      |value| < (2 : ℚ) ^ ((value.num.natAbs.log2 : ℤ) - (value.den.log2 : ℤ) + 1) := by
  have quotient : |value| = (value.num.natAbs : ℚ) / (value.den : ℚ) := by
    conv_lhs => rw [← Rat.num_div_den value]
    rw [abs_div, Nat.abs_cast, Nat.cast_natAbs, Int.cast_abs]
  have numerator : value.num.natAbs ≠ 0 := by
    rw [Int.natAbs_ne_zero]
    exact Rat.num_ne_zero.mpr nonzero
  have positive : (0 : ℚ) < value.den := by exact_mod_cast value.den_pos
  have numLeast : ((2 : ℚ) ^ value.num.natAbs.log2) ≤ value.num.natAbs := by
    exact_mod_cast Nat.log2_self_le numerator
  have numMost : (value.num.natAbs : ℚ) < (2 : ℚ) ^ (value.num.natAbs.log2 + 1) := by
    exact_mod_cast Nat.lt_log2_self
  have denLeast : ((2 : ℚ) ^ value.den.log2) ≤ value.den := by
    exact_mod_cast Nat.log2_self_le value.den_nz
  have denMost : (value.den : ℚ) < (2 : ℚ) ^ (value.den.log2 + 1) := by
    exact_mod_cast Nat.lt_log2_self
  have denPositive : (0 : ℚ) < (2 : ℚ) ^ value.den.log2 := by positivity
  rw [quotient]
  constructor
  · rw [le_div_iff₀ positive, sub_sub, zpow_sub₀ two_ne_zero, div_mul_eq_mul_div,
      div_le_iff₀ (by positivity)]
    refine mul_le_mul ?_ ?_ positive.le (by positivity)
    · exact_mod_cast numLeast
    · exact_mod_cast denMost.le
  · rw [div_lt_iff₀ positive, sub_add_eq_add_sub, zpow_sub₀ two_ne_zero, div_mul_eq_mul_div,
      lt_div_iff₀ (by positivity)]
    refine mul_lt_mul ?_ ?_ (by positivity) (by positivity)
    · exact_mod_cast numMost
    · exact_mod_cast denLeast

/-- The leading bit of a value is not above its magnitude. -/
theorem zpow_leadingExponent_le (nonzero : value ≠ 0) :
    (2 : ℚ) ^ leadingExponent value ≤ |value| := by
  obtain ⟨least, -⟩ := abs_mem_guess nonzero
  unfold leadingExponent
  dsimp only
  rw [twoPow_eq_zpow, magnitude_eq_abs]
  split
  · assumption
  · exact least

/-- Twice the leading bit of a value is above its magnitude. -/
theorem lt_zpow_leadingExponent (nonzero : value ≠ 0) :
    |value| < (2 : ℚ) ^ (leadingExponent value + 1) := by
  obtain ⟨-, most⟩ := abs_mem_guess nonzero
  unfold leadingExponent
  dsimp only
  rw [twoPow_eq_zpow, magnitude_eq_abs]
  split
  · exact most
  · next below =>
    rw [sub_add_cancel]
    exact not_le.mp below

/-- The leading exponent of a value below a power of two is below its exponent. -/
theorem leadingExponent_lt {exponent : ℤ} (nonzero : value ≠ 0)
    (small : |value| < (2 : ℚ) ^ exponent) : leadingExponent value < exponent := by
  have least := zpow_leadingExponent_le nonzero
  exact (zpow_lt_zpow_iff_right₀ one_lt_two).mp (least.trans_lt small)

/-! ### Rounding to the format -/

theorem spacing_eq_zpow (value : ℚ) : spacing value = (2 : ℚ) ^ lastExponent value :=
  twoPow_eq_zpow _

theorem spacing_pos (value : ℚ) : 0 < spacing value := by
  rw [spacing_eq_zpow]
  exact zpow_pos two_pos _

@[simp]
theorem round_zero : round 0 = 0 := by
  have none : roundEven 0 = 0 := roundEven_intCast 0
  unfold round
  rw [zero_div, none, Int.cast_zero, zero_mul]

theorem round_nonneg (nonneg : 0 ≤ value) : 0 ≤ round value := by
  have positive := spacing_pos value
  have rounded := roundEven_nonneg (div_nonneg nonneg positive.le)
  exact mul_nonneg (by exact_mod_cast rounded) positive.le

/-- Rounding moves a value by at most half the spacing around it. -/
theorem abs_round_sub_le_spacing (value : ℚ) : |round value - value| ≤ spacing value / 2 := by
  have positive := spacing_pos value
  have scaled : round value - value =
      ((roundEven (value / spacing value) : ℚ) - value / spacing value) * spacing value := by
    unfold round
    field_simp
  rw [scaled, abs_mul, abs_of_pos positive]
  calc |(roundEven (value / spacing value) : ℚ) - value / spacing value| * spacing value
      ≤ 1 / 2 * spacing value :=
        mul_le_mul_of_nonneg_right (abs_roundEven_sub_le _) positive.le
    _ = spacing value / 2 := by ring

/-- Below a power of two, rounding moves a value by at most the power with an exponent that is
54 less, unless that is less than half the least positive number. -/
theorem abs_round_sub_le {exponent : ℤ} (small : |value| < (2 : ℚ) ^ exponent)
    (normal : -1021 ≤ exponent) : |round value - value| ≤ (2 : ℚ) ^ (exponent - 54) := by
  by_cases zero : value = 0
  · rw [zero, round_zero, sub_zero, abs_zero]
    positivity
  · have leading := leadingExponent_lt zero small
    have last : lastExponent value ≤ exponent - 53 := by
      unfold lastExponent
      omega
    refine (abs_round_sub_le_spacing value).trans ?_
    rw [spacing_eq_zpow, div_le_iff₀ two_pos, ← zpow_add_one₀ two_ne_zero]
    exact zpow_le_zpow_right₀ one_le_two (by omega)

/-- An integer of at most 53 bits times a power of two is a number of the format. -/
theorem round_eq_self {mantissa exponent : ℤ} (small : |mantissa| < 2 ^ 53)
    (normal : -1074 ≤ exponent) :
    round ((mantissa : ℚ) * (2 : ℚ) ^ exponent) = (mantissa : ℚ) * (2 : ℚ) ^ exponent := by
  by_cases zero : mantissa = 0
  · rw [zero, Int.cast_zero, zero_mul, round_zero]
  · have power : (0 : ℚ) < (2 : ℚ) ^ exponent := zpow_pos two_pos _
    have nonzero : (mantissa : ℚ) * (2 : ℚ) ^ exponent ≠ 0 :=
      mul_ne_zero (Int.cast_ne_zero.mpr zero) power.ne'
    have below : |(mantissa : ℚ) * (2 : ℚ) ^ exponent| < (2 : ℚ) ^ (53 + exponent) := by
      rw [abs_mul, abs_of_pos power, zpow_add₀ two_ne_zero]
      refine mul_lt_mul_of_pos_right ?_ power
      exact_mod_cast small
    have leading := leadingExponent_lt nonzero below
    have last : lastExponent ((mantissa : ℚ) * (2 : ℚ) ^ exponent) ≤ exponent := by
      unfold lastExponent
      omega
    -- The last bit that is kept is not above the exponent, so it divides the value.
    obtain ⟨places, gap⟩ := Int.eq_ofNat_of_zero_le (sub_nonneg.mpr last)
    have whole : (mantissa : ℚ) * (2 : ℚ) ^ exponent /
        spacing ((mantissa : ℚ) * (2 : ℚ) ^ exponent) = ((mantissa * 2 ^ places : ℤ) : ℚ) := by
      rw [spacing_eq_zpow, mul_div_assoc, ← zpow_sub₀ two_ne_zero, gap]
      push_cast
      rfl
    unfold round
    rw [whole, roundEven_intCast, ← whole, div_mul_cancel₀ _ (spacing_pos _).ne']

/-- A natural number of at most 53 bits is a number of the format. -/
theorem ofInt_natCast {natural : ℕ} (small : natural < 9007199254740992) :
    ofInt (natural : ℤ) = (natural : ℚ) := by
  have bounded : |(natural : ℤ)| < 2 ^ 53 := by
    rw [Nat.abs_cast]
    norm_num
    omega
  have same := round_eq_self bounded (by norm_num : (-1074 : ℤ) ≤ 0)
  rwa [zpow_zero, mul_one, Int.cast_natCast] at same

/-- A half of a natural number of at most 53 bits is a number of the format. -/
theorem round_half_natCast {natural : ℕ} (small : natural < 9007199254740992) :
    round ((natural : ℚ) / 2) = (natural : ℚ) / 2 := by
  have bounded : |(natural : ℤ)| < 2 ^ 53 := by
    rw [Nat.abs_cast]
    norm_num
    omega
  have same := round_eq_self bounded (by norm_num : (-1074 : ℤ) ≤ -1)
  rwa [zpow_neg_one, ← div_eq_mul_inv, Int.cast_natCast] at same

end Heartbeat.Binary64
