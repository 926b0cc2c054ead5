import Heartbeat.Proofs.BinaryRounding
import Heartbeat.Timing
import Mathlib.Data.Nat.Prime.Basic
import Mathlib.Tactic.Qify

/-!
# The length of a stall

A stall plan is computed in floating point, but not far from the exact values. Its step is the
rounding of a whole number of tenths of a second (`StallPlan.interval_eq_round`) and takes two
seconds or more for every interval (`StallPlan.exists_long_step`). For positive intervals up to
`2 ^ 31` there are 46 to 50 steps (`StallPlan.repeats_mem_range`), and if the interval is not
positive, there is at least one (`StallPlan.one_le_repeats`). The silence that a machine reports
after a stall is computed from the product of step and count, rounded three times on the way.
`StallPlan.exists_silence` shows that it is nevertheless the real silence, the sum of all steps,
rounded half up to whole seconds: either the sum is far from a half second, or everything is exact.
For any interval of which a clock can count five, the length of the whole stall is a span
(`StallPlan.exists_window`).
-/

set_option autoImplicit false
set_option relaxedAutoImplicit false

namespace Heartbeat

open Binary64 (abs_round_sub_le ofInt_natCast round_half_natCast)

/-! ### Spans in floating point -/

namespace Span

/-- A number of seconds that is not negative and below 2^64 is a span, to the nanosecond. -/
theorem exists_ofNumber {number : ℚ} (least : 0 ≤ number) (most : number < 18446744073709551616) :
    ∃ span, ofNumber? number = some span ∧
      |(span.nanos : ℚ) - number * 1000000000| ≤ 1 / 2 := by
  have close := Binary64.abs_roundEven_sub_le (number * 1000000000)
  have positive : 0 ≤ Binary64.roundEven (number * 1000000000) :=
    Binary64.roundEven_nonneg (by positivity)
  refine ⟨⟨(Binary64.roundEven (number * 1000000000)).toNat⟩, ?_, ?_⟩
  · unfold ofNumber? perSecond
    rw [if_neg (by rw [not_or, not_lt, not_le]; exact ⟨least, most⟩)]
    norm_num
  · have cast : (((Binary64.roundEven (number * 1000000000)).toNat : ℕ) : ℚ) =
        (Binary64.roundEven (number * 1000000000) : ℚ) := by
      exact_mod_cast Int.toNat_of_nonneg positive
    show |(((Binary64.roundEven (number * 1000000000)).toNat : ℕ) : ℚ) - _| ≤ _
    rw [cast]
    exact close

/-- Whole nanoseconds are not rounded. -/
theorem ofNumber?_div (nanos : ℕ) (small : nanos < 18446744073709551616) :
    ofNumber? ((nanos : ℚ) / 1000000000) = some ⟨nanos⟩ := by
  have cast : (nanos : ℚ) < 18446744073709551616 := by exact_mod_cast small
  have whole : (nanos : ℚ) / 1000000000 * (perSecond : ℚ) = ((nanos : ℤ) : ℚ) := by
    unfold perSecond
    push_cast
    ring
  unfold ofNumber?
  rw [if_neg, whole, Binary64.roundEven_intCast, Int.toNat_natCast]
  rw [not_or, not_lt, not_le]
  constructor
  · positivity
  · linarith [div_le_self (Nat.cast_nonneg (α := ℚ) nanos) (by norm_num : (1 : ℚ) ≤ 1000000000)]

/-- The seconds of a span are its whole seconds and a rest below one. In floating point each of the
two is rounded, and then their sum. -/
theorem exists_rest (span : Span) : ∃ rest : ℚ, 0 ≤ rest ∧
    (span.nanos : ℚ) / 1000000000 = (span.seconds : ℚ) + rest ∧
    span.number = Binary64.round (Binary64.ofInt (span.seconds : ℤ) + Binary64.round rest) ∧
    |Binary64.round rest - rest| ≤ 1 / 18014398509481984 := by
  have division : (span.nanos : ℚ) =
      1000000000 * (span.seconds : ℚ) + ((span.nanos % 1000000000 : ℕ) : ℚ) := by
    exact_mod_cast (Nat.div_add_mod span.nanos 1000000000).symm
  have below : ((span.nanos % 1000000000 : ℕ) : ℚ) < 1000000000 := by
    exact_mod_cast Nat.mod_lt span.nanos (by norm_num)
  have least : (0 : ℚ) ≤ ((span.nanos % 1000000000 : ℕ) : ℚ) / 1000000000 := by positivity
  have fraction : |((span.nanos % 1000000000 : ℕ) : ℚ) / 1000000000| < (2 : ℚ) ^ (0 : ℤ) := by
    rw [abs_of_nonneg least, zpow_zero, div_lt_one (by norm_num)]
    exact below
  have close := abs_round_sub_le fraction (by norm_num)
  norm_num at close
  refine ⟨((span.nanos % 1000000000 : ℕ) : ℚ) / 1000000000, least, ?_, rfl, close⟩
  rw [division]
  ring

/-- The seconds of a span in floating point are close to its seconds. -/
theorem abs_number_sub_le {span : Span} {exponent : ℤ} (positive : 1 ≤ exponent)
    (bounded : exponent ≤ 52) (small : (span.nanos : ℚ) / 1000000000 < (2 : ℚ) ^ exponent) :
    |span.number - (span.nanos : ℚ) / 1000000000| ≤
      (2 : ℚ) ^ (exponent - 53) + 1 / 18014398509481984 := by
  obtain ⟨rest, least, parts, total, near⟩ := span.exists_rest
  have part := abs_le.mp near
  have power : (2 : ℚ) ^ exponent ≤ (2 : ℚ) ^ (52 : ℤ) := zpow_le_zpow_right₀ one_le_two bounded
  have two : (2 : ℚ) ^ (1 : ℤ) ≤ (2 : ℚ) ^ exponent := zpow_le_zpow_right₀ one_le_two positive
  have whole : Binary64.ofInt (span.seconds : ℤ) = (span.seconds : ℚ) := by
    have cast : (span.seconds : ℚ) < (2 : ℚ) ^ (52 : ℤ) := by linarith
    norm_num at cast
    have integer : span.seconds < 4503599627370496 := by exact_mod_cast cast
    exact ofInt_natCast (by omega)
  norm_num at two
  have sum := @abs_round_sub_le ((span.seconds : ℚ) + Binary64.round rest) (exponent + 1) (by
      have seconds : (0 : ℚ) ≤ span.seconds := Nat.cast_nonneg _
      rw [zpow_add_one₀ two_ne_zero, abs_lt]
      constructor <;> linarith [part.1, part.2]) (by omega)
  have exponents : exponent + 1 - 54 = exponent - 53 := by ring
  rw [exponents, ← whole, ← total, whole, abs_le] at sum
  rw [parts, abs_le]
  constructor <;> linarith [part.1, part.2, sum.1, sum.2]

theorem number_nonneg (span : Span) : 0 ≤ span.number := by
  have whole : (0 : ℚ) ≤ Binary64.ofInt (span.seconds : ℤ) := Binary64.round_nonneg (by positivity)
  have part : (0 : ℚ) ≤ Binary64.round (((span.nanos % perSecond : ℕ) : ℚ) / (perSecond : ℚ)) :=
    Binary64.round_nonneg (by positivity)
  exact Binary64.round_nonneg (add_nonneg whole part)

/-- The seconds of a span of whole and half seconds are exact. -/
theorem number_of_halves {halves : ℕ} (small : halves < 9007199254740992) :
    number ⟨halves * 500000000⟩ = (halves : ℚ) / 2 := by
  have seconds : seconds ⟨halves * 500000000⟩ = halves / 2 := by
    unfold seconds perSecond
    simp only
    omega
  have rest : halves * 500000000 % perSecond = halves % 2 * 500000000 := by
    unfold perSecond
    omega
  have half : ((halves % 2 * 500000000 : ℕ) : ℚ) / (perSecond : ℚ) =
      ((halves % 2 : ℕ) : ℚ) / 2 := by
    unfold perSecond
    rw [Nat.cast_mul]
    norm_num
    ring
  have sum : ((halves / 2 : ℕ) : ℚ) + ((halves % 2 : ℕ) : ℚ) / 2 = (halves : ℚ) / 2 := by
    have division : (2 : ℚ) * ((halves / 2 : ℕ) : ℚ) + ((halves % 2 : ℕ) : ℚ) = halves := by
      exact_mod_cast Nat.div_add_mod halves 2
    linarith
  unfold number
  dsimp only
  rw [seconds, rest, half, ofInt_natCast (by omega), round_half_natCast (by omega), sum,
    round_half_natCast small]

/-- A span of less than 2^28 seconds times a count of at most 64 is close to the exact product. -/
theorem exists_scaled {span : Span} {count : ℕ} (few : count ≤ 64)
    (small : (span.nanos : ℚ) / 1000000000 < 268435456) :
    ∃ product, span.scaled? count = some product ∧
      |(product.nanos : ℚ) - (count : ℚ) * (span.nanos : ℚ)| ≤ 4000 := by
  have number := abs_le.mp (@abs_number_sub_le span 28 (by norm_num) (by norm_num) (by
    norm_num
    exact small))
  have counted : (count : ℚ) ≤ 64 := by exact_mod_cast few
  have nonneg : (0 : ℚ) ≤ count := Nat.cast_nonneg _
  have positive : 0 ≤ (count : ℚ) * span.number := mul_nonneg nonneg span.number_nonneg
  norm_num at number
  have bounded : (count : ℚ) * span.number < 64 * 268435457 := by nlinarith [number.2]
  have rounded := abs_le.mp (@abs_round_sub_le ((count : ℚ) * span.number) 35 (by
    rw [abs_of_nonneg positive]
    norm_num
    linarith) (by norm_num))
  norm_num at rounded
  obtain ⟨product, made, close⟩ := exists_ofNumber (Binary64.round_nonneg positive) (by linarith)
  refine ⟨product, ?_, ?_⟩
  · unfold scaled?
    rw [ofInt_natCast (by omega)]
    exact made
  · -- The number, the product and the nanoseconds are each rounded once.
    have spread := abs_le.mp close
    have least : -(64 * 536870913 / 18014398509481984 : ℚ) ≤
        (count : ℚ) * (span.number - (span.nanos : ℚ) / 1000000000) := by nlinarith [number.1]
    have most : (count : ℚ) * (span.number - (span.nanos : ℚ) / 1000000000) ≤
        64 * 536870913 / 18014398509481984 := by nlinarith [number.2]
    have exact : (count : ℚ) * (span.nanos : ℚ) =
        (count : ℚ) * ((span.nanos : ℚ) / 1000000000) * 1000000000 := by ring
    rw [exact, abs_le]
    constructor <;> linarith [spread.1, spread.2, rounded.1, rounded.2]

/-- A product with a counter of less than 2^35 seconds is a span that is hardly longer. -/
theorem exists_scaled_of_lt {span : Span} {count : ℕ} (few : count < 9007199254740992)
    (small : (count : ℚ) * span.number < 34359738360) :
    ∃ product, span.scaled? count = some product ∧
      Binary64.roundHalfUp product.number ≤ 34359738368 := by
  have nonneg : 0 ≤ (count : ℚ) * span.number := mul_nonneg (Nat.cast_nonneg _) span.number_nonneg
  have rounded := abs_le.mp (@abs_round_sub_le ((count : ℚ) * span.number) 35 (by
    rw [abs_of_nonneg nonneg]
    norm_num
    linarith) (by norm_num))
  norm_num at rounded
  obtain ⟨product, made, close⟩ := exists_ofNumber (Binary64.round_nonneg nonneg)
    (by linarith [rounded.2])
  have spread := abs_le.mp close
  have seconds : (product.nanos : ℚ) / 1000000000 ≤ 34359738362 := by
    rw [div_le_iff₀ (by norm_num)]
    linarith [spread.2, rounded.2]
  have number := abs_le.mp (@abs_number_sub_le product 35 (by norm_num) (by norm_num) (by
    norm_num
    linarith))
  norm_num at number
  refine ⟨product, ?_, Binary64.roundHalfUp_le (by norm_num; linarith [number.2])⟩
  unfold scaled?
  rw [ofInt_natCast few]
  exact made

end Span

namespace StallPlan

variable {interval : Int64}

/-! ### One step -/

/-- The length of a step in tenths of a second, before it is rounded. -/
def stepTenths (interval : Int64) : ℕ :=
  max (nextSecond interval) 20

theorem twenty_le_stepTenths (interval : Int64) : 20 ≤ stepTenths interval :=
  le_max_right _ _

theorem stepTenths_pos (interval : Int64) : 0 < stepTenths interval :=
  Nat.lt_of_lt_of_le (by norm_num) (twenty_le_stepTenths interval)

/-- The step is the rounding of its exact length. -/
theorem interval_eq_round (small : nextSecond interval ≤ 2147483649) :
    (ofInterval interval).interval = Binary64.round ((stepTenths interval : ℚ) / 10) := by
  have whole : Binary64.ofInt (nextSecond interval : ℤ) = (nextSecond interval : ℚ) :=
    ofInt_natCast (by omega)
  have two : Binary64.round ((20 : ℕ) / 10 : ℚ) = 2 := by
    have same := @round_half_natCast 4 (by norm_num)
    norm_num at same ⊢
    exact same
  show atLeast minStallInterval
    (Binary64.round (Binary64.ofInt (nextSecond interval : ℤ) / 10)) = _
  rw [whole]
  unfold stepTenths atLeast minStallInterval
  rcases lt_trichotomy (nextSecond interval) 20 with short | equal | long
  · have close := @abs_round_sub_le ((nextSecond interval : ℚ) / 10) 1 (by
      have cast : (nextSecond interval : ℚ) < 20 := by exact_mod_cast short
      rw [abs_of_nonneg (by positivity)]
      norm_num
      linarith) (by norm_num)
    have cast : (nextSecond interval : ℚ) ≤ 19 := by
      exact_mod_cast Nat.le_of_lt_succ short
    have below : Binary64.round ((nextSecond interval : ℚ) / 10) < 2 := by
      have most := (abs_le.mp close).2
      norm_num at most
      linarith
    rw [if_pos below, max_eq_right short.le, two]
  · rw [equal, max_self, two]
    norm_num
  · have cast : (20 : ℚ) + 1 ≤ nextSecond interval := by exact_mod_cast long
    have most : (nextSecond interval : ℚ) ≤ 2147483649 := by exact_mod_cast small
    have close := @abs_round_sub_le ((nextSecond interval : ℚ) / 10) 28 (by
      rw [abs_of_nonneg (by positivity)]
      norm_num
      linarith) (by norm_num)
    have above : ¬ Binary64.round ((nextSecond interval : ℚ) / 10) < 2 := by
      have least := (abs_le.mp close).1
      norm_num at least
      linarith
    rw [if_neg above, max_eq_left long.le]

/-- The step is close to its exact length. -/
theorem abs_interval_sub_le (small : nextSecond interval ≤ 2147483649) :
    |(ofInterval interval).interval - (stepTenths interval : ℚ) / 10| ≤ 1 / 67108864 := by
  have most : (stepTenths interval : ℚ) ≤ 2147483649 := by
    unfold stepTenths
    exact_mod_cast max_le small (by norm_num)
  have close := @abs_round_sub_le ((stepTenths interval : ℚ) / 10) 28 (by
    rw [abs_of_nonneg (by positivity)]
    norm_num
    linarith) (by norm_num)
  rw [interval_eq_round small]
  norm_num at close ⊢
  exact close

/-- A step of whole or half seconds is exact. -/
theorem interval_eq_of_dvd (small : nextSecond interval ≤ 2147483649)
    (half : 5 ∣ stepTenths interval) :
    (ofInterval interval).interval = (stepTenths interval : ℚ) / 10 := by
  obtain ⟨count, tenths⟩ := half
  have most : stepTenths interval ≤ 2147483649 := max_le small (by norm_num)
  have halves : (stepTenths interval : ℚ) / 10 = (count : ℚ) / 2 := by
    rw [tenths]
    push_cast
    ring
  rw [interval_eq_round small, halves]
  exact round_half_natCast (by omega)

/-- A step is a span close to its exact length, and a step of whole or half seconds is exact. -/
theorem exists_step (small : nextSecond interval ≤ 2147483649) :
    ∃ step, (ofInterval interval).step? = some step ∧
      stepTenths interval * 100000000 ≤ step.nanos + 16 ∧
      step.nanos ≤ stepTenths interval * 100000000 + 16 ∧
      (5 ∣ stepTenths interval → step.nanos = stepTenths interval * 100000000) := by
  have close := abs_le.mp (abs_interval_sub_le small)
  have least : (20 : ℚ) ≤ stepTenths interval := by
    exact_mod_cast twenty_le_stepTenths interval
  have most : (stepTenths interval : ℚ) ≤ 2147483649 := by
    unfold stepTenths
    exact_mod_cast max_le small (by norm_num)
  obtain ⟨step, made, rounded⟩ := @Span.exists_ofNumber (ofInterval interval).interval
    (by linarith [close.1]) (by linarith [close.2])
  have planned : (ofInterval interval).step? = some step := made
  have spread := abs_le.mp rounded
  have lower : ((stepTenths interval * 100000000 : ℕ) : ℚ) ≤ ((step.nanos + 16 : ℕ) : ℚ) := by
    push_cast
    linarith [close.1, spread.1]
  have upper : (step.nanos : ℚ) ≤ ((stepTenths interval * 100000000 + 16 : ℕ) : ℚ) := by
    push_cast
    linarith [close.2, spread.2]
  refine ⟨step, planned, by exact_mod_cast lower, by exact_mod_cast upper, ?_⟩
  intro half
  have exact : (ofInterval interval).interval =
      ((stepTenths interval * 100000000 : ℕ) : ℚ) / 1000000000 := by
    rw [interval_eq_of_dvd small half]
    push_cast
    ring
  have natural : stepTenths interval ≤ 2147483649 := by exact_mod_cast most
  have whole := Span.ofNumber?_div (stepTenths interval * 100000000) (by omega)
  rw [← exact, made, Option.some_inj] at whole
  rw [whole]

theorem nextSecond_le (interval : Int64) : nextSecond interval ≤ interval.toInt.natAbs + 1 := by
  have greatest : Int64.maxValue.toInt = 9223372036854775807 := by decide
  have most := interval.toInt_lt
  unfold nextSecond
  rw [greatest]
  omega

theorem nextSecond_le_two_pow (interval : Int64) : nextSecond interval ≤ 9223372036854775809 := by
  have next := nextSecond_le interval
  have least := interval.le_toInt
  have most := interval.toInt_lt
  omega

/-- The step is at least two seconds and close to a tenth of the next second, for every interval:
both roundings are small, as the numbers are below 2^64. -/
theorem interval_mem_range (interval : Int64) :
    2 ≤ (ofInterval interval).interval ∧
      (ofInterval interval).interval ≤ (nextSecond interval : ℚ) / 10 + 1000 := by
  have most : (nextSecond interval : ℚ) ≤ 9223372036854775809 := by
    exact_mod_cast nextSecond_le_two_pow interval
  have nonneg : (0 : ℚ) ≤ nextSecond interval := Nat.cast_nonneg _
  have whole := abs_le.mp (@abs_round_sub_le (nextSecond interval : ℚ) 64 (by
    rw [abs_of_nonneg nonneg]
    exact most.trans_lt (by norm_num)) (by norm_num))
  have positive : 0 ≤ Binary64.round (nextSecond interval : ℚ) := Binary64.round_nonneg nonneg
  norm_num at whole
  have tenth := abs_le.mp (@abs_round_sub_le (Binary64.round (nextSecond interval : ℚ) / 10) 61 (by
    rw [abs_of_nonneg (by positivity)]
    norm_num
    linarith [whole.2]) (by norm_num))
  norm_num at tenth
  have planned : (ofInterval interval).interval =
      atLeast minStallInterval (Binary64.round (Binary64.round (nextSecond interval : ℚ) / 10)) := by
    have cast : Binary64.ofInt (nextSecond interval : ℤ) =
        Binary64.round (nextSecond interval : ℚ) := by
      unfold Binary64.ofInt
      rw [Int.cast_natCast]
    rw [← cast]
    rfl
  rw [planned]
  unfold atLeast minStallInterval
  split
  · exact ⟨le_refl _, by linarith⟩
  · next long => exact ⟨not_lt.mp long, by linarith [whole.2, tenth.2]⟩

/-- The step is a span of two seconds or more, as near as nanoseconds come. -/
theorem exists_near_step (interval : Int64) :
    ∃ step, (ofInterval interval).step? = some step ∧ Span.ofSeconds 2 ≤ step ∧
      |(step.nanos : ℚ) - (ofInterval interval).interval * 1000000000| ≤ 1 / 2 := by
  obtain ⟨two, most⟩ := interval_mem_range interval
  have bounded : (nextSecond interval : ℚ) ≤ 9223372036854775809 := by
    exact_mod_cast nextSecond_le_two_pow interval
  obtain ⟨step, planned, near⟩ := @Span.exists_ofNumber (ofInterval interval).interval
    (by linarith) (by linarith)
  refine ⟨step, planned, ?_, near⟩
  have above : (2000000000 : ℚ) < step.nanos + 1 := by linarith [(abs_le.mp near).1]
  have whole : 2000000000 < step.nanos + 1 := by exact_mod_cast above
  exact Nat.le_of_lt_succ whole

/-- For every interval the step is a span of at least two seconds. -/
theorem exists_long_step (interval : Int64) :
    ∃ step, (ofInterval interval).step? = some step ∧ (Span.ofSeconds 2).nanos ≤ step.nanos ∧
      step.nanos ≤ nextSecond interval * 100000000 + 1000000000001 := by
  obtain ⟨-, most⟩ := interval_mem_range interval
  obtain ⟨step, planned, least, near⟩ := exists_near_step interval
  have upper : (step.nanos : ℚ) ≤
      ((nextSecond interval * 100000000 + 1000000000001 : ℕ) : ℚ) := by
    push_cast
    linarith [(abs_le.mp near).2]
  exact ⟨step, planned, least, by exact_mod_cast upper⟩

/-- The whole stall is the product of the step and the count, as it is computed. -/
theorem window?_eq_scaled? {step : Span} (planned : (ofInterval interval).step? = some step) :
    (ofInterval interval).window? = step.scaled? (ofInterval interval).repeats := by
  unfold window?
  rw [planned]
  rfl

/-! ### The number of steps -/

/-- The length of a stall is exact. -/
theorem sleepTime_eq (small : fiveIntervals interval < 9007199254740992) :
    (ofInterval interval).sleepTime = ((max 100 (fiveIntervals interval) : ℕ) : ℚ) := by
  show atLeast minStall (Binary64.ofInt (fiveIntervals interval : ℤ)) = _
  rw [ofInt_natCast small]
  unfold atLeast minStall
  by_cases short : (fiveIntervals interval : ℚ) < 100
  · have natural : fiveIntervals interval < 100 := by exact_mod_cast short
    rw [if_pos short, max_eq_left natural.le, Nat.cast_ofNat]
  · have natural : 100 ≤ fiveIntervals interval := by exact_mod_cast not_lt.mp short
    rw [if_neg short, max_eq_right natural]

/-- The number of steps lies between two numbers if the quotient of the lengths does. The rounding
of the step and of the quotient is smaller than the room that is left. -/
theorem repeats_mem_of_quotient {least most : ℕ} (small : nextSecond interval ≤ 2147483649)
    (short : fiveIntervals interval < 9007199254740992)
    (lower : (least + 1) * stepTenths interval + 3 ≤ 10 * max 100 (fiveIntervals interval))
    (upper : 10 * max 100 (fiveIntervals interval) ≤ most * stepTenths interval)
    (few : most ≤ 60) :
    least ≤ (ofInterval interval).repeats ∧ (ofInterval interval).repeats ≤ most := by
  have close := abs_le.mp (abs_interval_sub_le small)
  have tenths := twenty_le_stepTenths interval
  have fewer : least < 60 := by
    by_contra many
    have product := Nat.mul_le_mul_right (stepTenths interval) (by omega : most ≤ least + 1)
    omega
  have length := sleepTime_eq short
  generalize max 100 (fiveIntervals interval) = total at *
  qify at tenths lower upper few fewer
  have step : 0 < (ofInterval interval).interval := by linarith [close.1]
  have above : (least : ℚ) + 1 ≤
      (ofInterval interval).sleepTime / (ofInterval interval).interval := by
    rw [length, le_div_iff₀ step]
    have product := mul_le_mul_of_nonneg_left close.2 (by positivity : (0 : ℚ) ≤ least + 1)
    linarith
  have below : (ofInterval interval).sleepTime / (ofInterval interval).interval ≤
      most + 1 / 2 := by
    rw [length, div_le_iff₀ step]
    have product := mul_le_mul_of_nonneg_left close.1 (by positivity : (0 : ℚ) ≤ most + 1 / 2)
    linarith
  have rounded := abs_le.mp (@abs_round_sub_le
    ((ofInterval interval).sleepTime / (ofInterval interval).interval) 6 (by
      rw [abs_of_nonneg (by linarith)]
      norm_num
      linarith) (by norm_num))
  norm_num at rounded
  have floorLeast : (least : ℤ) ≤ (Binary64.round
      ((ofInterval interval).sleepTime / (ofInterval interval).interval)).floor := by
    rw [Rat.le_floor_iff]
    push_cast
    linarith [rounded.1]
  have floorMost : (Binary64.round
      ((ofInterval interval).sleepTime / (ofInterval interval).interval)).floor <
        (most : ℤ) + 1 := by
    rw [Rat.floor_lt_iff]
    push_cast
    linarith [rounded.2]
  have counted : (ofInterval interval).repeats = min (Binary64.round
      ((ofInterval interval).sleepTime / (ofInterval interval).interval)).floor.toNat
        maxCounter := rfl
  have limit : most ≤ 60 := by exact_mod_cast few
  unfold maxCounter at counted
  omega

/-- For intervals up to 2^31 seconds, positive or not, a stall has one step or more. -/
theorem one_le_repeats (bounded : interval.toInt.natAbs ≤ 2147483648) :
    1 ≤ (ofInterval interval).repeats := by
  have room : nextSecond interval ≤ 2147483649 ∧ 10 * max 100 (fiveIntervals interval) ≤
      60 * max (nextSecond interval) 20 ∧
      2 * max (nextSecond interval) 20 + 3 ≤ 10 * max 100 (fiveIntervals interval) ∧
      fiveIntervals interval < 9007199254740992 := by
    have greatest : Int64.maxValue.toInt = 9223372036854775807 := by decide
    unfold fiveIntervals ceilingMultiplier maxCounter nextSecond
    rw [greatest]
    omega
  have tenths : stepTenths interval = max (nextSecond interval) 20 := rfl
  obtain ⟨small, upper, lower, short⟩ := room
  exact (@repeats_mem_of_quotient interval 1 60 small short (by omega) (by omega) le_rfl).1

theorem repeats_le_maxCounter (interval : Int64) : (ofInterval interval).repeats ≤ maxCounter :=
  min_le_right _ _

section Countable

/-! ### Stalls of intervals that a clock can count -/

-- Five intervals of so many seconds are less than 2^64 nanoseconds.
variable (short : fiveIntervals interval ≤ 18446744073)

include short

theorem nextSecond_le_of_fiveIntervals_le : nextSecond interval ≤ 3689348815 := by
  have next := nextSecond_le interval
  unfold fiveIntervals ceilingMultiplier maxCounter at short
  omega

/-- The number of steps is hardly more than the quotient of the two lengths. -/
theorem repeats_le : ((ofInterval interval).repeats : ℚ) ≤
    ((max 100 (fiveIntervals interval) : ℕ) : ℚ) / (ofInterval interval).interval +
      1 / 1048576 := by
  obtain ⟨two, -⟩ := interval_mem_range interval
  have positive : 0 < (ofInterval interval).interval := by linarith
  have most : max 100 (fiveIntervals interval) ≤ 18446744073 := max_le (by norm_num) short
  have counted : ((ofInterval interval).repeats : ℚ) ≤ ((Binary64.round
      ((ofInterval interval).sleepTime / (ofInterval interval).interval)).floor.toNat : ℚ) := by
    exact_mod_cast min_le_left _ maxCounter
  rw [sleepTime_eq (by omega)] at counted
  generalize max 100 (fiveIntervals interval) = total at most counted ⊢
  qify at most
  have nonneg : 0 ≤ (total : ℚ) / (ofInterval interval).interval := by positivity
  have rounded := abs_le.mp (@abs_round_sub_le
    ((total : ℚ) / (ofInterval interval).interval) 34 (by
      rw [abs_of_nonneg nonneg, div_lt_iff₀ positive]
      norm_num
      linarith) (by norm_num))
  norm_num at rounded
  have floor := Binary64.toNat_floor_le (Binary64.round_nonneg nonneg)
  linarith [rounded.2]

/-- The steps of a stall together, as they are computed, are hardly longer than the stall. -/
theorem repeats_mul_number_lt {step : Span} (planned : (ofInterval interval).step? = some step) :
    ((ofInterval interval).repeats : ℚ) * step.number < 18446747000 := by
  obtain ⟨two, most⟩ := interval_mem_range interval
  have next : (nextSecond interval : ℚ) ≤ 3689348815 := by
    exact_mod_cast nextSecond_le_of_fiveIntervals_le short
  have length : ((max 100 (fiveIntervals interval) : ℕ) : ℚ) ≤ 18446744073 := by
    exact_mod_cast max_le (by norm_num) short
  have counted := repeats_le short
  have many : (0 : ℚ) ≤ (ofInterval interval).repeats := Nat.cast_nonneg _
  obtain ⟨found, made, -, close⟩ := exists_near_step interval
  obtain rfl : found = step := Option.some_inj.mp (made.symm.trans planned)
  have spread := abs_le.mp close
  have seconds : (found.nanos : ℚ) / 1000000000 ≤
      (ofInterval interval).interval + 1 / 2000000000 := by
    rw [div_le_iff₀ (by norm_num)]
    linarith [spread.2]
  have number := abs_le.mp (@Span.abs_number_sub_le found 29 (by norm_num) (by norm_num) (by
    norm_num
    linarith))
  norm_num at number
  generalize ((max 100 (fiveIntervals interval) : ℕ) : ℚ) = total at length counted
  generalize (ofInterval interval).interval = exact at *
  generalize ((ofInterval interval).repeats : ℚ) = repeats at *
  have positive : 0 < exact := by linarith
  have few : repeats ≤ 9223372037 := by
    have half : total / exact ≤ 9223372036.5 := by
      rw [div_le_iff₀ positive]
      linarith
    linarith
  have product : repeats * exact ≤ total + exact / 1048576 := by
    calc repeats * exact ≤ (total / exact + 1 / 1048576) * exact :=
          mul_le_mul_of_nonneg_right counted positive.le
      _ = total + exact / 1048576 := by field_simp
  calc repeats * found.number ≤ repeats * (exact + 1 / 8000000) :=
        mul_le_mul_of_nonneg_left (by linarith [number.2]) many
    _ = repeats * exact + repeats / 8000000 := by ring
    _ < 18446747000 := by linarith

/-- The whole stall is a span, and the silence that is reported after it is less than 2^36
seconds. -/
theorem exists_window : ∃ window, (ofInterval interval).window? = some window ∧
    Binary64.roundHalfUp window.number ≤ 34359738368 := by
  obtain ⟨step, planned, -⟩ := exists_long_step interval
  have counted := repeats_le short
  have few : (ofInterval interval).repeats < 9007199254740992 := by
    obtain ⟨two, -⟩ := interval_mem_range interval
    have length : ((max 100 (fiveIntervals interval) : ℕ) : ℚ) ≤ 18446744073 := by
      exact_mod_cast max_le (by norm_num) short
    have quotient := div_le_self (Nat.cast_nonneg (max 100 (fiveIntervals interval)))
      (by linarith : (1 : ℚ) ≤ (ofInterval interval).interval)
    have cast : ((ofInterval interval).repeats : ℚ) < 9007199254740992 := by linarith
    exact_mod_cast cast
  obtain ⟨window, made, silence⟩ := Span.exists_scaled_of_lt few
    ((repeats_mul_number_lt short planned).trans (by norm_num))
  exact ⟨window, (window?_eq_scaled? planned).trans made, silence⟩

end Countable

/-- What a machine with an interval has to know of its stall: the step, and that the whole stall as
it is computed is rounded to the same number of seconds as the sum of all steps. -/
structure Silence (interval : Int64) (step : Span) : Prop where
  few : (ofInterval interval).repeats ≤ 50
  planned : (ofInterval interval).step? = some step
  window : ∃ window, (ofInterval interval).window? = some window ∧
    Binary64.roundHalfUp window.number =
      ((ofInterval interval).repeats * step.nanos + 500000000) / 1000000000
  small : step.nanos < 268435456000000000
  shortest : interval.toInt ≤ 2 → step.nanos = 2000000000

section Positive

variable (positive : 0 < interval.toInt) (bounded : interval.toInt ≤ 2147483648)

include positive bounded

theorem fiveIntervals_eq : fiveIntervals interval = 5 * interval.toInt.toNat := by
  unfold fiveIntervals ceilingMultiplier maxCounter
  omega

theorem nextSecond_eq : nextSecond interval = interval.toInt.toNat + 1 := by
  have greatest : Int64.maxValue.toInt = 9223372036854775807 := by decide
  unfold nextSecond
  rw [greatest]
  omega

/-- A stall has 46 to 50 steps. -/
theorem repeats_mem_range :
    46 ≤ (ofInterval interval).repeats ∧ (ofInterval interval).repeats ≤ 50 := by
  have five := fiveIntervals_eq positive bounded
  have next := nextSecond_eq positive bounded
  have tenths : stepTenths interval = max (interval.toInt.toNat + 1) 20 := by
    unfold stepTenths
    rw [next]
  exact repeats_mem_of_quotient (by omega) (by omega) (by omega) (by omega) (by omega)

/-! ### The silence that is reported -/

/-- Steps of whole or half seconds: the silence is exact. -/
theorem roundHalfUp_window_of_dvd (half : 5 ∣ stepTenths interval) {step : Span}
    (planned : (ofInterval interval).step? = some step)
    (exact : step.nanos = stepTenths interval * 100000000) :
    ∃ window, (ofInterval interval).window? = some window ∧
      Binary64.roundHalfUp window.number =
        ((ofInterval interval).repeats * step.nanos + 500000000) / 1000000000 := by
  obtain ⟨count, tenths⟩ := half
  have next := nextSecond_eq positive bounded
  have most : stepTenths interval ≤ 2147483649 := max_le (by omega) (by norm_num)
  obtain ⟨-, few⟩ := repeats_mem_range positive bounded
  generalize counted : (ofInterval interval).repeats = repeats at few ⊢
  have capped : count ≤ 429496730 := by omega
  have halves := Nat.mul_le_mul few capped
  have nanos : step.nanos = count * 500000000 := by
    rw [exact, tenths]
    ring
  have number : step.number = (count : ℚ) / 2 := by
    rw [← Span.number_of_halves (by omega : count < 9007199254740992), ← nanos]
  have product : (repeats : ℚ) * step.number = ((repeats * count : ℕ) : ℚ) / 2 := by
    rw [number]
    push_cast
    ring
  have seconds : ((repeats * count : ℕ) : ℚ) / 2 =
      ((repeats * count * 500000000 : ℕ) : ℚ) / 1000000000 := by
    push_cast
    ring
  have made : step.scaled? repeats = some ⟨repeats * count * 500000000⟩ := by
    unfold Span.scaled?
    rw [ofInt_natCast (by omega), product, round_half_natCast (by omega), seconds,
      Span.ofNumber?_div _ (by omega)]
  refine ⟨⟨repeats * count * 500000000⟩, ?_, ?_⟩
  · rw [window?_eq_scaled? planned, counted]
    exact made
  · rw [Span.number_of_halves (by omega), nanos, ← Nat.mul_assoc]
    have total : (repeats * count * 500000000 + 500000000) / 1000000000 =
        (repeats * count + 1) / 2 := by omega
    have lower : 2 * ((repeats * count + 1) / 2) ≤ repeats * count + 1 := by omega
    have upper : repeats * count + 1 < 2 * ((repeats * count + 1) / 2) + 2 := by omega
    rw [total]
    generalize (repeats * count + 1) / 2 = rounded at lower upper ⊢
    generalize repeats * count = total at lower upper ⊢
    qify at lower upper
    exact Binary64.roundHalfUp_eq (by linarith) (by linarith)

/-- Other steps: the silence is far enough from a half second. -/
theorem roundHalfUp_window_of_not_dvd (other : ¬ 5 ∣ stepTenths interval) {step : Span}
    (planned : (ofInterval interval).step? = some step)
    (least : stepTenths interval * 100000000 ≤ step.nanos + 16)
    (most : step.nanos ≤ stepTenths interval * 100000000 + 16) :
    ∃ window, (ofInterval interval).window? = some window ∧
      Binary64.roundHalfUp window.number =
        ((ofInterval interval).repeats * step.nanos + 500000000) / 1000000000 := by
  have next := nextSecond_eq positive bounded
  have greatest : stepTenths interval ≤ 2147483649 := max_le (by omega) (by norm_num)
  obtain ⟨many, few⟩ := repeats_mem_range positive bounded
  have tenths : (ofInterval interval).repeats * stepTenths interval % 10 ≠ 5 := by
    intro odd
    have divides : 5 ∣ (ofInterval interval).repeats * stepTenths interval := by omega
    rcases (Nat.Prime.dvd_mul Nat.prime_five).mp divides with counted | length
    · have fifty : (ofInterval interval).repeats = 50 := by omega
      rw [fifty] at odd
      omega
    · exact other length
  have natural : step.nanos < 268435456 * 1000000000 := by omega
  have small : (step.nanos : ℚ) / 1000000000 < 268435456 := by
    rw [div_lt_iff₀ (by norm_num)]
    exact_mod_cast natural
  obtain ⟨window, made, close⟩ := Span.exists_scaled (few.trans (by norm_num)) small
  refine ⟨window, (window?_eq_scaled? planned).trans made, ?_⟩
  generalize (ofInterval interval).repeats = repeats at *
  have lower : repeats * stepTenths interval * 100000000 ≤ repeats * step.nanos + 800 := by
    nlinarith
  have upper : repeats * step.nanos ≤ repeats * stepTenths interval * 100000000 + 800 := by
    nlinarith
  have capped := Nat.mul_le_mul few greatest
  have spread := abs_le.mp close
  rw [← Nat.cast_mul] at spread
  generalize repeats * step.nanos = total at *
  generalize repeats * stepTenths interval = length at *
  -- The length of the stall in tenths of a second is not a half second after a whole one.
  obtain ⟨whole, part, split, first, last⟩ : ∃ whole part, length + 5 = 10 * whole + part ∧
      1 ≤ part ∧ part ≤ 9 := ⟨(length + 5) / 10, (length + 5) % 10, by omega, by omega, by omega⟩
  have rounded : (total + 500000000) / 1000000000 = whole := by omega
  rw [rounded]
  qify at lower upper split first last capped
  have span : (window.nanos : ℚ) / 1000000000 < (2 : ℚ) ^ (35 : ℤ) := by
    have power : (2 : ℚ) ^ (35 : ℤ) = 34359738368 := by norm_num
    rw [div_lt_iff₀ (by norm_num), power]
    linarith [spread.2]
  have number := abs_le.mp (Span.abs_number_sub_le (by norm_num) (by norm_num) span)
  norm_num at number
  exact Binary64.roundHalfUp_eq (by linarith [number.1, spread.1])
    (by linarith [number.2, spread.2])

/-- The silence that a machine reports after a stall is the sum of its steps, rounded half up to
whole seconds. A step is shorter than 2^28 seconds, and for the shortest intervals it has two. -/
theorem exists_silence : ∃ step, Silence interval step := by
  have next := nextSecond_eq positive bounded
  obtain ⟨step, planned, least, most, exact⟩ := @exists_step interval (by omega)
  have greatest : stepTenths interval ≤ 2147483649 := max_le (by omega) (by norm_num)
  have window : ∃ window, (ofInterval interval).window? = some window ∧
      Binary64.roundHalfUp window.number =
        ((ofInterval interval).repeats * step.nanos + 500000000) / 1000000000 := by
    by_cases half : 5 ∣ stepTenths interval
    · exact roundHalfUp_window_of_dvd positive bounded half planned (exact half)
    · exact roundHalfUp_window_of_not_dvd positive bounded half planned least most
  refine ⟨step, (repeats_mem_range positive bounded).2, planned, window, by omega, ?_⟩
  intro short
  have twenty : stepTenths interval = 20 := by
    unfold stepTenths
    omega
  have two := exact (by omega)
  omega

end Positive

end StallPlan

end Heartbeat
