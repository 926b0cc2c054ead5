import Heartbeat.Proofs.BinaryRounding

/-!
# Laws of rounding to binary64

`BinaryRounding` bounds what rounding moves by the size of a value. Here are the laws that hold at
every size: a value of one and more is moved by at most one part in `2 ^ 53`
(`abs_round_sub_le_of_one_le`), a number of the format is not moved at all (`round_round`), and from
`2 ^ 52` on every number of the format is an integer (`exists_round_eq_intCast`).

A power of two is a threshold of rounding. `zpow_le_round_iff` says which values reach it: those
that miss it by at most a half of the spacing below it, because the power is the even neighbour of a
tie there.
-/

set_option autoImplicit false
set_option relaxedAutoImplicit false

namespace Heartbeat.Binary64

variable {value : ℚ}

/-! ### Integers as thresholds -/

/-- A value is not rounded past an integer above it. -/
theorem roundEven_le {integer : ℤ} (most : value ≤ integer) : roundEven value ≤ integer := by
  have close := (abs_le.mp (abs_roundEven_sub_le value)).2
  have below : (roundEven value : ℚ) < integer + 1 := by linarith
  exact Int.le_of_lt_add_one (by exact_mod_cast below)

/-- A value is not rounded past an integer below it. -/
theorem le_roundEven {integer : ℤ} (least : (integer : ℚ) ≤ value) :
    integer ≤ roundEven value := by
  have close := (abs_le.mp (abs_roundEven_sub_le value)).1
  have above : (integer : ℚ) - 1 < roundEven value := by linarith
  exact Int.le_of_sub_one_lt (by exact_mod_cast above)

/-- A value at most a half below an even integer is rounded up to it. -/
theorem roundEven_of_half_le {integer : ℤ} (even : integer % 2 = 0)
    (least : (integer : ℚ) - 1 / 2 ≤ value) (most : value < integer) :
    roundEven value = integer := by
  have low : value.floor = integer - 1 := by
    refine le_antisymm (Int.le_of_lt_add_one ?_) ?_
    · rw [sub_add_cancel, Rat.floor_lt_iff]
      exact most
    · rw [Rat.le_floor_iff]
      push_cast
      linarith
  unfold roundEven
  rw [low]
  push_cast
  split_ifs with below above odd
  · linarith
  · exact sub_add_cancel _ _
  · omega
  · exact sub_add_cancel _ _

/-! ### The leading bit -/

theorem ne_zero_of_zpow_le {exponent : ℤ} (large : (2 : ℚ) ^ exponent ≤ |value|) : value ≠ 0 := by
  rintro rfl
  rw [abs_zero] at large
  exact absurd large (not_le.mpr (zpow_pos two_pos exponent))

/-- The leading exponent of a value that reaches a power of two reaches its exponent. -/
theorem le_leadingExponent {exponent : ℤ} (large : (2 : ℚ) ^ exponent ≤ |value|) :
    exponent ≤ leadingExponent value := by
  have most := large.trans_lt (lt_zpow_leadingExponent (ne_zero_of_zpow_le large))
  exact Int.le_of_lt_add_one ((zpow_lt_zpow_iff_right₀ one_lt_two).mp most)

/-- The format keeps 53 bits of every value from the least normal number on. -/
theorem lastExponent_eq (normal : (2 : ℚ) ^ (-1022 : ℤ) ≤ |value|) :
    lastExponent value = leadingExponent value - 52 := by
  have leading := le_leadingExponent normal
  unfold lastExponent
  omega

/-- A value of one and more is normal. -/
theorem normal_of_one_le (one : 1 ≤ value) : (2 : ℚ) ^ (-1022 : ℤ) ≤ |value| := by
  rw [abs_of_nonneg (by linarith)]
  exact (zpow_le_one_of_nonpos₀ one_le_two (by norm_num)).trans one

/-! ### The relative error -/

/-- Rounding moves a value of one and more by at most one part in 2^53. -/
theorem abs_round_sub_le_of_one_le (one : 1 ≤ value) :
    |round value - value| ≤ value / 9007199254740992 := by
  have size : |value| = value := abs_of_nonneg (by linarith)
  have normal := normal_of_one_le one
  calc |round value - value| ≤ spacing value / 2 := abs_round_sub_le_spacing value
    _ = (2 : ℚ) ^ leadingExponent value / 9007199254740992 := by
      rw [spacing_eq_zpow, lastExponent_eq normal, zpow_sub₀ two_ne_zero]
      norm_num
      ring
    _ ≤ value / 9007199254740992 := by
      gcongr
      exact (zpow_leadingExponent_le (ne_zero_of_zpow_le normal)).trans_eq size

/-- Rounding moves a natural number by at most one part in 2^53. -/
theorem abs_ofInt_natCast_sub_le (natural : ℕ) :
    |ofInt (natural : ℤ) - (natural : ℚ)| ≤ (natural : ℚ) / 9007199254740992 := by
  unfold ofInt
  rw [Int.cast_natCast]
  rcases Nat.eq_zero_or_pos natural with rfl | positive
  · simp
  · exact abs_round_sub_le_of_one_le (by exact_mod_cast positive)

/-! ### Numbers of the format -/

/-- A number of the format has a mantissa of at most 53 bits, or it is the power of two that
follows. -/
theorem abs_roundEven_div_spacing_le (nonzero : value ≠ 0) :
    |roundEven (value / spacing value)| ≤ 9007199254740992 := by
  have exponents : leadingExponent value + 1 ≤ 53 + lastExponent value := by
    unfold lastExponent
    omega
  have bound : |value / spacing value| ≤ ((9007199254740992 : ℤ) : ℚ) := by
    rw [abs_div, abs_of_pos (spacing_pos value), div_le_iff₀ (spacing_pos value), spacing_eq_zpow]
    calc |value| ≤ (2 : ℚ) ^ (leadingExponent value + 1) := (lt_zpow_leadingExponent nonzero).le
      _ ≤ (2 : ℚ) ^ (53 + lastExponent value) := zpow_le_zpow_right₀ one_le_two exponents
      _ = ((9007199254740992 : ℤ) : ℚ) * (2 : ℚ) ^ lastExponent value := by
        rw [zpow_add₀ two_ne_zero]
        norm_num
  obtain ⟨lower, upper⟩ := abs_le.mp bound
  rw [abs_le]
  exact ⟨le_roundEven (by exact_mod_cast lower), roundEven_le upper⟩

/-- A number of the format is rounded to itself. -/
theorem round_round (value : ℚ) : round (round value) = round value := by
  by_cases zero : value = 0
  · rw [zero, round_zero, round_zero]
  have few := abs_roundEven_div_spacing_le zero
  have least : -1074 ≤ lastExponent value := le_max_right _ _
  have number : round value =
      (roundEven (value / spacing value) : ℚ) * (2 : ℚ) ^ lastExponent value := by
    unfold round
    rw [spacing_eq_zpow]
  rw [number]
  generalize roundEven (value / spacing value) = mantissa at few
  by_cases inside : |mantissa| < 2 ^ 53
  · exact round_eq_self inside least
  · -- The mantissa 2^53 is half of it with the next exponent.
    obtain ⟨half, twice, small⟩ : ∃ half : ℤ, mantissa = half * 2 ∧ |half| < 2 ^ 53 := by
      rcases abs_cases mantissa with ⟨size, -⟩ | ⟨size, -⟩
      · exact ⟨4503599627370496, by omega, by norm_num⟩
      · exact ⟨-4503599627370496, by omega, by norm_num⟩
    have shifted : (mantissa : ℚ) * (2 : ℚ) ^ lastExponent value =
        (half : ℚ) * (2 : ℚ) ^ (lastExponent value + 1) := by
      rw [twice, zpow_add_one₀ two_ne_zero]
      push_cast
      ring
    rw [shifted]
    exact round_eq_self small (by omega)

/-- From 2^52 on a value is rounded to an integer. -/
theorem exists_round_eq_intCast (large : (2 : ℚ) ^ (52 : ℤ) ≤ |value|) :
    ∃ integer : ℤ, round value = integer := by
  have leading := le_leadingExponent large
  have last : 0 ≤ lastExponent value := le_max_of_le_left (by omega)
  obtain ⟨places, shift⟩ := Int.eq_ofNat_of_zero_le last
  refine ⟨roundEven (value / spacing value) * 2 ^ places, ?_⟩
  have spacing : spacing value = 2 ^ places := by
    rw [spacing_eq_zpow, shift]
    exact zpow_natCast 2 places
  unfold round
  rw [spacing]
  push_cast
  rfl

/-! ### Powers of two as thresholds -/

variable {exponent : ℤ}

/-- A value that reaches a power of two is rounded to a number that reaches it. -/
theorem zpow_le_round (normal : -1022 ≤ exponent) (large : (2 : ℚ) ^ exponent ≤ value) :
    (2 : ℚ) ^ exponent ≤ round value := by
  have size : |value| = value :=
    abs_of_nonneg ((zpow_pos two_pos exponent).le.trans large)
  have reached : (2 : ℚ) ^ exponent ≤ |value| := large.trans_eq size.symm
  have leading := le_leadingExponent reached
  have last := lastExponent_eq ((zpow_le_zpow_right₀ one_le_two normal).trans reached)
  have positive : (0 : ℚ) < (2 : ℚ) ^ (leadingExponent value - 52) := zpow_pos two_pos _
  have bit : (2 : ℚ) ^ leadingExponent value =
      ((4503599627370496 : ℤ) : ℚ) * (2 : ℚ) ^ (leadingExponent value - 52) := by
    rw [zpow_sub₀ two_ne_zero]
    norm_num
    ring
  have mantissa : 4503599627370496 ≤
      roundEven (value / (2 : ℚ) ^ (leadingExponent value - 52)) := by
    apply le_roundEven
    rw [le_div_iff₀ positive, ← bit]
    exact (zpow_leadingExponent_le (ne_zero_of_zpow_le reached)).trans_eq size
  calc (2 : ℚ) ^ exponent ≤ (2 : ℚ) ^ leadingExponent value :=
        zpow_le_zpow_right₀ one_le_two leading
    _ ≤ round value := by
      unfold round
      rw [spacing_eq_zpow, last, bit]
      exact mul_le_mul_of_nonneg_right (by exact_mod_cast mantissa) positive.le

/-- Between the half of a power of two and the power, a value is rounded to the power exactly if at
most a half of the spacing is missing. -/
theorem zpow_le_round_iff_of_mem (normal : -1021 ≤ exponent)
    (least : (2 : ℚ) ^ (exponent - 1) ≤ value) (most : value < (2 : ℚ) ^ exponent) :
    (2 : ℚ) ^ exponent ≤ round value ↔
      (2 : ℚ) ^ exponent - (2 : ℚ) ^ (exponent - 54) ≤ value := by
  have size : |value| = value :=
    abs_of_nonneg ((zpow_pos two_pos (exponent - 1)).le.trans least)
  have reached : (2 : ℚ) ^ (exponent - 1) ≤ |value| := least.trans_eq size.symm
  have leading : leadingExponent value = exponent - 1 :=
    le_antisymm (Int.le_sub_one_of_lt
      (leadingExponent_lt (ne_zero_of_zpow_le reached) (size.trans_lt most)))
      (le_leadingExponent reached)
  have spacing : spacing value = (2 : ℚ) ^ (exponent - 53) := by
    have last : lastExponent value = exponent - 53 := by
      unfold lastExponent
      omega
    rw [spacing_eq_zpow, last]
  have positive : (0 : ℚ) < (2 : ℚ) ^ (exponent - 53) := zpow_pos two_pos _
  have power : (2 : ℚ) ^ exponent = 9007199254740992 * (2 : ℚ) ^ (exponent - 53) := by
    rw [zpow_sub₀ two_ne_zero]
    norm_num
    ring
  have missing : (2 : ℚ) ^ (exponent - 54) = 1 / 2 * (2 : ℚ) ^ (exponent - 53) := by
    rw [show exponent - 54 = exponent - 53 - 1 by ring, zpow_sub_one₀ two_ne_zero]
    ring
  rw [power, missing]
  unfold round
  rw [spacing, mul_le_mul_iff_of_pos_right positive]
  rw [power] at most
  constructor
  · intro rounded
    have close := (abs_le.mp (abs_roundEven_sub_le (value / (2 : ℚ) ^ (exponent - 53)))).2
    have near : 9007199254740992 - 1 / 2 ≤ value / (2 : ℚ) ^ (exponent - 53) := by linarith
    rw [le_div_iff₀ positive] at near
    linarith
  · intro near
    rw [@roundEven_of_half_le _ 9007199254740992 (by norm_num)]
    · norm_num
    · rw [le_div_iff₀ positive]
      push_cast
      linarith
    · rw [div_lt_iff₀ positive]
      push_cast
      exact most

/-- A value is rounded to a power of two or above exactly if at most a half of the spacing below
the power is missing. -/
theorem zpow_le_round_iff (normal : -1020 ≤ exponent) (nonneg : 0 ≤ value) :
    (2 : ℚ) ^ exponent ≤ round value ↔
      (2 : ℚ) ^ exponent - (2 : ℚ) ^ (exponent - 54) ≤ value := by
  have missing : (0 : ℚ) < (2 : ℚ) ^ (exponent - 54) := zpow_pos two_pos _
  rcases lt_or_ge value ((2 : ℚ) ^ (exponent - 1)) with short | long
  · -- Below the half of the power rounding is too small to matter.
    have close := (abs_le.mp (abs_round_sub_le ((abs_of_nonneg nonneg).trans_lt short)
      (by omega))).2
    have error : (2 : ℚ) ^ (exponent - 1 - 54) ≤ (2 : ℚ) ^ (exponent - 54) :=
      zpow_le_zpow_right₀ one_le_two (by omega)
    have gap : (2 : ℚ) ^ (exponent - 54) ≤ (2 : ℚ) ^ (exponent - 2) :=
      zpow_le_zpow_right₀ one_le_two (by omega)
    have half : (2 : ℚ) ^ (exponent - 1) = 2 * (2 : ℚ) ^ (exponent - 2) := by
      rw [← zpow_one_add₀ two_ne_zero]
      ring_nf
    have whole : (2 : ℚ) ^ exponent = 4 * (2 : ℚ) ^ (exponent - 2) := by
      rw [zpow_sub₀ two_ne_zero]
      norm_num
      ring
    refine iff_of_false (not_le.mpr ?_) (not_le.mpr ?_) <;> linarith
  · rcases lt_or_ge value ((2 : ℚ) ^ exponent) with inside | beyond
    · exact zpow_le_round_iff_of_mem (by omega) long inside
    · exact iff_of_true (zpow_le_round (by omega) beyond) (by linarith)

end Heartbeat.Binary64
