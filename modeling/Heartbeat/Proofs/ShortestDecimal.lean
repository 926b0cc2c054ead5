import Heartbeat.Binary64.Shortest
import Heartbeat.Proofs.RoundingLaws
import Mathlib.Data.List.TakeWhile

/-!
# Reading back the shortest decimal

The shortest decimal of a positive number of the format is rounded to that number
(`round_shortest`), also without the zeros at the end of its coefficient (`value_stripped`). The
candidates of `readable?` are checked before they are taken, so what is to be shown is that the
search comes to an end: of the two neighbours on a grid of seventeen significant digits, one is so
near to the number that it is rounded to it (`round_eq_of_near`).

A number of the format is a multiple of the spacing around it, and so is every power of two that is
not below the spacing. This is why a value that is nearer than one part in `2 ^ 54` stays within
the same powers of two, except below a power of two, where the spacing is half as wide.
-/

set_option autoImplicit false
set_option relaxedAutoImplicit false

namespace Heartbeat.Binary64

variable {value near : ℚ} {exponent : ℤ}

/-! ### Near a number of the format -/

/-- A value less than a half away from an integer is rounded to it. -/
theorem roundEven_eq_of_near {integer : ℤ} (close : |value - integer| < 1 / 2) :
    roundEven value = integer := by
  have moved := abs_roundEven_sub_le value
  have total : |(roundEven value : ℚ) - integer| < 1 :=
    calc |(roundEven value : ℚ) - integer|
        ≤ |(roundEven value : ℚ) - value| + |value - integer| := abs_sub_le _ _ _
      _ < 1 := by linarith
  have same : |roundEven value - integer| < 1 := by exact_mod_cast total
  exact sub_eq_zero.mp (Int.abs_lt_one_iff.mp same)

/-- A value less than half the spacing away from a multiple of the spacing is rounded to it. -/
theorem round_eq_mul_spacing {integer : ℤ}
    (close : |value - integer * spacing value| < spacing value / 2) :
    round value = integer * spacing value := by
  have positive := spacing_pos value
  have scaled : value / spacing value - integer =
      (value - integer * spacing value) / spacing value := by
    field_simp
  have half : |value / spacing value - integer| < 1 / 2 := by
    rw [scaled, abs_div, abs_of_pos positive, div_lt_iff₀ positive]
    linarith
  unfold round
  rw [roundEven_eq_of_near half]

/-- Of two multiples of a unit, the one above is above by at least the unit. -/
theorem add_unit_le {unit : ℚ} (positive : 0 < unit) {below above : ℤ}
    (order : below * unit < above * unit) : below * unit + unit ≤ above * unit := by
  have less : below < above := by exact_mod_cast lt_of_mul_lt_mul_right order positive.le
  rw [← add_one_mul]
  exact mul_le_mul_of_nonneg_right (by exact_mod_cast less) positive.le

/-- A number of the format is a multiple of the spacing around it. -/
theorem exists_eq_mul_spacing (format : round value = value) :
    ∃ count : ℤ, value = count * spacing value :=
  ⟨_, format.symm⟩

/-- A power of two that is not below the spacing is a multiple of the spacing. -/
theorem exists_zpow_eq_mul (order : lastExponent value ≤ exponent) :
    ∃ count : ℤ, (2 : ℚ) ^ exponent = count * spacing value := by
  obtain ⟨places, gap⟩ := Int.eq_ofNat_of_zero_le (sub_nonneg.mpr order)
  refine ⟨2 ^ places, ?_⟩
  rw [spacing_eq_zpow, ← sub_add_cancel exponent (lastExponent value), zpow_add₀ two_ne_zero, gap]
  push_cast
  rfl

/-- A number of the format below a power of two is below it by at least the spacing. -/
theorem add_spacing_le (format : round value = value) (order : lastExponent value ≤ exponent)
    (below : value < (2 : ℚ) ^ exponent) : value + spacing value ≤ (2 : ℚ) ^ exponent := by
  obtain ⟨count, own⟩ := exists_eq_mul_spacing format
  obtain ⟨power, multiple⟩ := exists_zpow_eq_mul order
  have less : count * spacing value < power * spacing value :=
    own.symm.trans_lt (below.trans_eq multiple)
  calc value + spacing value = count * spacing value + spacing value := by rw [← own]
    _ ≤ power * spacing value := add_unit_le (spacing_pos value) less
    _ = (2 : ℚ) ^ exponent := multiple.symm

/-- A number of the format above a power of two is above it by at least the spacing. -/
theorem zpow_add_spacing_le (format : round value = value) (order : lastExponent value ≤ exponent)
    (above : (2 : ℚ) ^ exponent < value) : (2 : ℚ) ^ exponent + spacing value ≤ value := by
  obtain ⟨count, own⟩ := exists_eq_mul_spacing format
  obtain ⟨power, multiple⟩ := exists_zpow_eq_mul order
  have less : power * spacing value < count * spacing value :=
    multiple.symm.trans_lt (above.trans_eq own)
  calc (2 : ℚ) ^ exponent + spacing value = power * spacing value + spacing value :=
        by rw [multiple]
    _ ≤ count * spacing value := add_unit_le (spacing_pos value) less
    _ = value := own.symm

/-- The leading bit of a positive number of the format is not below its last bit. -/
theorem lastExponent_le_leadingExponent (positive : 0 < value) (format : round value = value) :
    lastExponent value ≤ leadingExponent value := by
  obtain ⟨count, own⟩ := exists_eq_mul_spacing format
  have width := spacing_pos value
  have some : 0 < (count : ℚ) := pos_of_mul_pos_left (own ▸ positive) width.le
  have one : (1 : ℚ) ≤ count := by exact_mod_cast some
  apply le_leadingExponent
  rw [← spacing_eq_zpow, abs_of_pos positive]
  calc spacing value ≤ count * spacing value := le_mul_of_one_le_left width.le one
    _ = value := own.symm

/-- One part in 2^54 of a number is less than half the spacing around it. -/
theorem div_lt_half_spacing (positive : 0 < value) : value / 2 ^ 54 < spacing value / 2 := by
  have most := lt_zpow_leadingExponent positive.ne'
  rw [abs_of_pos positive] at most
  have last : leadingExponent value - 52 ≤ lastExponent value := le_max_left _ _
  have width : (2 : ℚ) ^ (leadingExponent value - 52) ≤ spacing value := by
    rw [spacing_eq_zpow]
    exact zpow_le_zpow_right₀ one_le_two last
  calc value / 2 ^ 54 < (2 : ℚ) ^ (leadingExponent value + 1) / 2 ^ 54 := by gcongr
    _ = (2 : ℚ) ^ (leadingExponent value - 52) / 2 := by
      rw [zpow_add_one₀ two_ne_zero, zpow_sub₀ two_ne_zero]
      norm_num
      ring
    _ ≤ spacing value / 2 := by gcongr

/-! ### The neighbourhood that is rounded to a number -/

section Near

variable (positive : 0 < value) (format : round value = value)
  (close : |near - value| < value / 2 ^ 54)

include positive close

/-- A value near to a positive number is positive. -/
theorem pos_of_near : 0 < near := by
  have small : value / 2 ^ 54 ≤ value := div_le_self positive.le (by norm_num)
  linarith [(abs_lt.mp close).1]

include format

/-- The leading bit of a value near to a number of the format is not above that of the number. -/
theorem leadingExponent_le_of_near : leadingExponent near ≤ leadingExponent value := by
  have most := lt_zpow_leadingExponent positive.ne'
  rw [abs_of_pos positive] at most
  have order : lastExponent value ≤ leadingExponent value + 1 :=
    (lastExponent_le_leadingExponent positive format).trans (lt_add_one _).le
  have room := add_spacing_le format order most
  have own := pos_of_near positive close
  refine Int.le_of_lt_add_one (leadingExponent_lt own.ne' ?_)
  rw [abs_of_pos own]
  linarith [(abs_lt.mp close).2, div_lt_half_spacing positive, spacing_pos value]

/-- Twice the leading bit of a value near to a number of the format is not below the number. The
number itself is twice the leading bit if it is a power of two and the value is below it. -/
theorem le_zpow_of_near : value ≤ (2 : ℚ) ^ (leadingExponent near + 1) := by
  have own := pos_of_near positive close
  have least := zpow_leadingExponent_le positive.ne'
  have most := lt_zpow_leadingExponent positive.ne'
  rw [abs_of_pos positive] at least most
  rcases least.eq_or_lt with power | above
  · have reached : leadingExponent value - 1 ≤ leadingExponent near := by
      apply le_leadingExponent
      rw [abs_of_pos own, zpow_sub_one₀ two_ne_zero, power]
      have small : value / 2 ^ 54 ≤ value / 2 := by gcongr; norm_num
      linarith [(abs_lt.mp close).1]
    rw [← power]
    exact zpow_le_zpow_right₀ one_le_two (by omega)
  · have order := lastExponent_le_leadingExponent positive format
    have room := zpow_add_spacing_le format order above
    have reached : leadingExponent value ≤ leadingExponent near := by
      apply le_leadingExponent
      rw [abs_of_pos own]
      linarith [(abs_lt.mp close).1, div_lt_half_spacing positive, spacing_pos value]
    exact most.le.trans (zpow_le_zpow_right₀ one_le_two (by omega))

/-- A value less than one part in 2^54 away from a number of the format is rounded to it. -/
theorem round_eq_of_near : round near = value := by
  have reached := leadingExponent_le_of_near positive format close
  have order : lastExponent near ≤ lastExponent value := by
    unfold lastExponent
    omega
  -- The number is a multiple of its own spacing, and so of the spacing around the value.
  obtain ⟨count, own⟩ := exists_eq_mul_spacing format
  obtain ⟨factor, finer⟩ := exists_zpow_eq_mul order
  have multiple : value = ((count * factor : ℤ) : ℚ) * spacing near := by
    rw [own, spacing_eq_zpow value, finer]
    push_cast
    ring
  have last : leadingExponent near - 52 ≤ lastExponent near := le_max_left _ _
  have half : value / 2 ^ 54 ≤ spacing near / 2 :=
    calc value / 2 ^ 54 ≤ (2 : ℚ) ^ (leadingExponent near + 1) / 2 ^ 54 := by
          gcongr
          exact le_zpow_of_near positive format close
      _ = (2 : ℚ) ^ (leadingExponent near - 52) / 2 := by
          rw [zpow_add_one₀ two_ne_zero, zpow_sub₀ two_ne_zero]
          norm_num
          ring
      _ ≤ spacing near / 2 := by
          rw [spacing_eq_zpow]
          gcongr
          exact one_le_two
  have inside : |near - ((count * factor : ℤ) : ℚ) * spacing near| < spacing near / 2 := by
    rw [← multiple]
    exact close.trans_le half
  rw [round_eq_mul_spacing inside, ← multiple]

end Near

/-! ### Powers of ten -/

theorem tenPow_eq_zpow (exponent : ℤ) : tenPow exponent = (10 : ℚ) ^ exponent := by
  unfold tenPow
  by_cases positive : 0 ≤ exponent
  · rw [if_pos positive]
    obtain ⟨natural, rfl⟩ := Int.eq_ofNat_of_zero_le positive
    simp
  · rw [if_neg positive]
    obtain ⟨natural, opposite⟩ := Int.eq_ofNat_of_zero_le (by omega : 0 ≤ -exponent)
    rw [opposite, ← neg_neg exponent, opposite, zpow_neg]
    simp

theorem ten_pos : (0 : ℚ) < 10 := by norm_num

theorem ten_ne_zero : (10 : ℚ) ≠ 0 := ten_pos.ne'

/-- The number of digits of a natural number tells between which powers of ten it is. -/
theorem mem_length_toDigits {natural : ℕ} (positive : 0 < natural) :
    10 ^ ((Nat.toDigits 10 natural).length - 1) ≤ natural ∧
      natural < 10 ^ (Nat.toDigits 10 natural).length := by
  have digits : 0 < (Nat.toDigits 10 natural).length := Nat.length_toDigits_pos
  constructor
  · rcases Nat.eq_or_lt_of_le digits with single | several
    · rw [← single]
      exact positive
    · rw [← not_lt, ← Nat.length_toDigits_le_iff (by norm_num) (by omega)]
      omega
  · exact (Nat.length_toDigits_le_iff (by norm_num) digits).mp le_rfl

/-- A value below ten is multiplied by ten until it is one or more, and is then below ten. -/
theorem mem_stepsToOne {fuel : ℕ} (enough : 1 ≤ value * 10 ^ fuel) (small : value < 10) :
    1 ≤ value * 10 ^ stepsToOne fuel value ∧ value * 10 ^ stepsToOne fuel value < 10 := by
  induction fuel generalizing value with
  | zero =>
    rw [pow_zero, mul_one] at enough
    simpa [stepsToOne] using ⟨enough, small⟩
  | succ fuel ih =>
    unfold stepsToOne
    split
    · next reached => simpa using ⟨reached, small⟩
    · next below =>
      rw [pow_succ', ← mul_assoc] at enough ⊢
      exact ih enough (by linarith)

/-- A value that is not negative is below the natural number after the one that it is cut to. -/
theorem lt_toNat_floor_add_one (nonneg : 0 ≤ value) : value < (value.floor.toNat : ℚ) + 1 := by
  rw [natCast_toNat_floor nonneg]
  exact_mod_cast Rat.lt_floor_add_one value

/-- The decimal exponent of a value that is not too small is that of its leading digit. -/
theorem mem_decimalExponent (least : 1 ≤ value * 10 ^ 400) :
    (10 : ℚ) ^ decimalExponent value ≤ value ∧
      value < (10 : ℚ) ^ (decimalExponent value + 1) := by
  unfold decimalExponent
  split
  · next one =>
    have nonneg : 0 ≤ value := zero_le_one.trans one
    have whole : 0 < value.floor.toNat := by
      have floor : 1 ≤ value.floor := Rat.le_floor_iff.mpr (by exact_mod_cast one)
      omega
    obtain ⟨low, high⟩ := mem_length_toDigits whole
    have digits : 1 ≤ (Nat.toDigits 10 value.floor.toNat).length := Nat.length_toDigits_pos
    rw [sub_add_cancel, ← Nat.cast_pred digits, zpow_natCast, zpow_natCast]
    constructor
    · refine le_trans ?_ (toNat_floor_le nonneg)
      exact_mod_cast low
    · refine (lt_toNat_floor_add_one nonneg).trans_le ?_
      exact_mod_cast high
  · next below =>
    obtain ⟨reached, small⟩ := mem_stepsToOne least ((not_le.mp below).trans (by norm_num))
    generalize stepsToOne 400 value = steps at reached small ⊢
    have power : (0 : ℚ) < 10 ^ steps := by positivity
    rw [zpow_add_one₀ ten_ne_zero, zpow_neg, zpow_natCast]
    constructor
    · rwa [inv_le_iff_one_le_mul₀ power]
    · rwa [inv_mul_eq_div, lt_div_iff₀ power]

/-- A positive number of the format has fewer than four hundred zeros after the point. -/
theorem one_le_mul_of_format (positive : 0 < value) (format : round value = value) :
    1 ≤ value * 10 ^ 400 := by
  have least := zpow_leadingExponent_le positive.ne'
  rw [abs_of_pos positive] at least
  have last : -1074 ≤ leadingExponent value :=
    (le_max_right _ _).trans (lastExponent_le_leadingExponent positive format)
  have bit : (2 : ℚ) ^ (-1200 : ℤ) ≤ value :=
    (zpow_le_zpow_right₀ one_le_two (by omega)).trans least
  calc (1 : ℚ) = (2 : ℚ) ^ (-1200 : ℤ) * (2 ^ 3) ^ 400 := by
        rw [← pow_mul, ← zpow_natCast, ← zpow_add₀ two_ne_zero]
        norm_num
    _ ≤ value * 10 ^ 400 := by
        gcongr
        norm_num

/-! ### The search for the digits -/

/-- A decimal that the search takes reads back. -/
theorem round_of_readable? {digits : ℕ} {decimal : Decimal}
    (found : readable? value digits = some decimal) : round decimal.value = value := by
  unfold readable? at found
  dsimp only at found
  split_ifs at found with both even below above
  · cases found
    exact both.1
  · cases found
    exact both.2
  · cases found
    exact below
  · cases found
    exact above

/-- On a grid that is fine enough, one of the neighbours of a number is rounded to it. -/
theorem round_neighbour {unit : ℚ} (positive : 0 < value) (format : round value = value)
    (width : 0 < unit) (fine : unit / 2 < value / 2 ^ 54) :
    round ((value / unit).floor.toNat * unit) = value ∨
      round (((value / unit).floor.toNat + 1) * unit) = value := by
  have nonneg : 0 ≤ value / unit := (div_pos positive width).le
  have low : (value / unit).floor.toNat * unit ≤ value := by
    rw [← le_div_iff₀ width]
    exact toNat_floor_le nonneg
  have high : value < ((value / unit).floor.toNat + 1) * unit := by
    rw [← div_lt_iff₀ width]
    exact lt_toNat_floor_add_one nonneg
  generalize ((value / unit).floor.toNat : ℚ) = count at low high ⊢
  rw [add_one_mul] at high ⊢
  rcases le_total (value - count * unit) (unit / 2) with near | near
  · refine .inl (round_eq_of_near positive format ?_)
    rw [abs_lt]
    constructor <;> linarith
  · refine .inr (round_eq_of_near positive format ?_)
    rw [abs_lt]
    constructor <;> linarith

/-- Seventeen significant digits suffice. -/
theorem exists_readable? (positive : 0 < value) (format : round value = value) :
    ∃ decimal, readable? value 17 = some decimal := by
  obtain ⟨least, -⟩ := mem_decimalExponent (one_le_mul_of_format positive format)
  have width : (0 : ℚ) < tenPow (decimalExponent value + 1 - (17 : ℕ)) := by
    rw [tenPow_eq_zpow]
    exact zpow_pos ten_pos _
  have fine : tenPow (decimalExponent value + 1 - (17 : ℕ)) / 2 < value / 2 ^ 54 :=
    calc tenPow (decimalExponent value + 1 - (17 : ℕ)) / 2
        = (10 : ℚ) ^ decimalExponent value / (2 * 10 ^ 16) := by
          rw [tenPow_eq_zpow, add_sub_assoc, zpow_add₀ ten_ne_zero]
          norm_num
          ring
      _ ≤ value / (2 * 10 ^ 16) := by gcongr
      _ < value / 2 ^ 54 := by
          gcongr
          norm_num
  have neighbour := round_neighbour positive format width fine
  unfold readable?
  simp only [Decimal.value]
  push_cast
  split_ifs with both even below above
  · exact ⟨_, rfl⟩
  · exact ⟨_, rfl⟩
  · exact ⟨_, rfl⟩
  · exact ⟨_, rfl⟩
  · exact (neighbour.elim below above).elim

/-- The shortest decimal of a positive number of the format is rounded to the number. -/
theorem round_shortest (positive : 0 < value) (format : round value = value) :
    round (shortest value).value = value := by
  obtain ⟨last, readable⟩ := exists_readable? positive format
  unfold shortest
  cases found : (List.range 17).findSome? fun n ↦ readable? value (n + 1) with
  | none =>
    have none := List.findSome?_eq_none_iff.mp found 16 (List.mem_range.mpr (by norm_num))
    exact absurd (none.symm.trans readable) (by simp)
  | some decimal =>
    obtain ⟨n, -, taken⟩ := List.exists_of_findSome?_eq_some found
    exact round_of_readable? taken

/-! ### Zeros at the end -/

/-- Digits are what is left of them without the zeros at their end, and these zeros. -/
theorem eq_append_zeros (digits : List Char) :
    digits = (digits.reverse.dropWhile (· == '0')).reverse ++
      List.replicate (digits.reverse.takeWhile (· == '0')).length '0' := by
  have zeros : digits.reverse.takeWhile (· == '0') =
      List.replicate (digits.reverse.takeWhile (· == '0')).length '0' := by
    refine List.eq_replicate_of_mem fun c member ↦ ?_
    exact beq_iff_eq.mp (List.mem_takeWhile_imp (p := (· == '0')) member)
  have split := @List.takeWhile_append_dropWhile _ (· == '0') digits.reverse
  rw [zeros] at split
  have whole := congrArg List.reverse split
  rw [List.reverse_append, List.reverse_replicate, List.reverse_reverse] at whole
  exact whole.symm

/-- A coefficient is divided by the power of ten for the zeros at its end. -/
theorem exists_eq_pow_mul (coefficient : ℕ) :
    ∃ rest, coefficient = 10 ^ ((Nat.toDigits 10 coefficient).reverse.takeWhile
      (· == '0')).length * rest := by
  refine ⟨Nat.ofDigitChars 10 ((Nat.toDigits 10 coefficient).reverse.dropWhile
    (· == '0')).reverse 0, ?_⟩
  rw [← Nat.ofDigitChars_replicate_zero, ← Nat.ofDigitChars_append, ← eq_append_zeros,
    Nat.ofDigitChars_ten_toDigits]

/-- A decimal without the zeros at the end of its coefficient has the same value. -/
theorem value_stripped (decimal : Decimal) : decimal.stripped.value = decimal.value := by
  obtain ⟨coefficient, exponent⟩ := decimal
  obtain ⟨rest, own⟩ := exists_eq_pow_mul coefficient
  unfold Decimal.stripped Decimal.value
  dsimp only
  generalize ((Nat.toDigits 10 coefficient).reverse.takeWhile (· == '0')).length = zeros at own ⊢
  have power : 0 < 10 ^ zeros := by positivity
  rw [tenPow_eq_zpow, tenPow_eq_zpow, zpow_add₀ ten_ne_zero, own, Nat.pow_eq,
    Nat.mul_div_cancel_left rest power, zpow_natCast]
  push_cast
  ring

end Heartbeat.Binary64
