import Heartbeat.Proofs.RoundingLaws
import Heartbeat.Proofs.StallLength

/-!
# Stall plans of every interval

`StallLength` treats the plans of intervals that a run can stall with. The plan itself is made for
every interval of 64 bits, and each operation of it rounds: the two lengths, their quotient, the
step to nanoseconds and back, and the product with the count. All but the nanoseconds are rounded by
at most one part in `2 ^ 53`, so the quotient stays between nineteen and fifty-four
(`quotient_mem_range`), the count is its whole part (`le_repeats_iff`), and the steps together take
at least nine tenths of the length that is planned (`le_repeats_mul_nanos`).

The whole stall need not be a span. Past `2 ^ 53` seconds a step is a whole number of seconds
(`exists_interval_eq_natCast`), and the product with the count is rounded once, to a multiple of
2048 seconds near the end of the range: it is out of range as soon as 1024 seconds or less are
missing from `2 ^ 64` (`window?_eq_none_iff`). That happens to some of the intervals of which five
come near `2 ^ 64` seconds or are cut to it, and to none below (`exists_window_of_le`);
`window?_eq_none` is such an interval, whose steps alone would stay in range. No run comes to such a
stall. `spans_of_plan` is the statement for every interval.
-/

set_option autoImplicit false
set_option relaxedAutoImplicit false

namespace Heartbeat

open Binary64 (abs_round_sub_le_of_one_le abs_ofInt_natCast_sub_le ofInt_natCast)

/-! ### Spans of every length in floating point -/

namespace Span

/-- From one second on, the seconds of a span in floating point are exact but for one part in
2^51. -/
theorem abs_number_sub_le_mul {span : Span} (long : ofSeconds 1 ≤ span) :
    |span.number - (span.nanos : ℚ) / 1000000000| ≤
      (span.nanos : ℚ) / 1000000000 / 2251799813685248 := by
  obtain ⟨rest, nonneg, parts, total, near⟩ := span.exists_rest
  have natural : 1 ≤ span.seconds := (Nat.le_div_iff_mul_le (by decide)).mpr long
  have least : (1 : ℚ) ≤ span.seconds := by exact_mod_cast natural
  have whole := abs_le.mp (abs_ofInt_natCast_sub_le span.seconds)
  have part := abs_le.mp near
  have one : 1 ≤ Binary64.ofInt (span.seconds : ℤ) := by
    have kept := @Binary64.zpow_le_round (span.seconds : ℚ) 0 (by norm_num)
      (by rw [zpow_zero]; exact least)
    rwa [zpow_zero] at kept
  have sum := abs_le.mp (abs_round_sub_le_of_one_le (le_add_of_le_of_nonneg one
    (Binary64.round_nonneg nonneg)))
  rw [total, parts, abs_le]
  constructor <;> linarith [whole.1, whole.2, part.1, part.2, sum.1, sum.2]

/-- A whole number of seconds is the span of so many seconds. -/
theorem ofNumber?_natCast {seconds : ℕ} (small : seconds < 18446744073709551616) :
    ofNumber? (seconds : ℚ) = some (ofSeconds seconds) := by
  have cast : (seconds : ℚ) < 18446744073709551616 := by exact_mod_cast small
  have whole : (seconds : ℚ) * (perSecond : ℚ) = (((seconds * perSecond : ℕ) : ℤ) : ℚ) := by
    push_cast
    rfl
  unfold ofNumber?
  rw [if_neg (by rw [not_or, not_lt, not_le]; exact ⟨Nat.cast_nonneg seconds, cast⟩), whole,
    Binary64.roundEven_intCast, Int.toNat_natCast]
  rfl

/-- The seconds of a span of whole seconds are rounded once. -/
theorem number_ofSeconds (seconds : ℕ) :
    (ofSeconds seconds).number = Binary64.ofInt (seconds : ℤ) := by
  have whole : (ofSeconds seconds).seconds = seconds :=
    Nat.mul_div_cancel seconds (by decide : 0 < perSecond)
  have none : (ofSeconds seconds).nanos % perSecond = 0 := Nat.mul_mod_left seconds perSecond
  unfold number
  dsimp only
  rw [whole, none, Nat.cast_zero, zero_div, Binary64.round_zero, add_zero]
  exact Binary64.round_round _

/-- A number that is not negative is no span exactly from 2^64 seconds on. -/
theorem ofNumber?_eq_none_iff {number : ℚ} (nonneg : 0 ≤ number) :
    ofNumber? number = none ↔ 18446744073709551616 ≤ number := by
  unfold ofNumber?
  simp [not_lt.mpr nonneg]

/-- A product of a span and a counter is rounded twice. -/
theorem abs_scaled_sub_le {span product : Span} {count : ℕ} (few : count < 9007199254740992)
    (long : 1 ≤ (count : ℚ) * span.number) (made : span.scaled? count = some product) :
    |(product.nanos : ℚ) - (count : ℚ) * span.number * 1000000000| ≤
      (count : ℚ) * span.number * 1000000000 / 9007199254740992 + 1 / 2 := by
  have rounded := abs_le.mp (abs_round_sub_le_of_one_le long)
  have nonneg : 0 ≤ Binary64.round ((count : ℚ) * span.number) :=
    Binary64.round_nonneg (by linarith)
  unfold scaled? at made
  rw [ofInt_natCast few] at made
  have small : Binary64.round ((count : ℚ) * span.number) < 18446744073709551616 := by
    rw [← not_le, ← ofNumber?_eq_none_iff nonneg, made]
    simp
  obtain ⟨found, same, near⟩ := exists_ofNumber nonneg small
  obtain rfl : found = product := Option.some_inj.mp (same.symm.trans made)
  have spread := abs_le.mp near
  rw [abs_le]
  constructor <;> linarith

/-- A product of a span and a counter is out of range exactly if the numbers come to within 1024
seconds of 2^64: from there on the product is rounded to 2^64. -/
theorem scaled?_eq_none_iff (span : Span) {count : ℕ} (few : count < 9007199254740992) :
    span.scaled? count = none ↔ 18446744073709550592 ≤ (count : ℚ) * span.number := by
  have nonneg : 0 ≤ (count : ℚ) * span.number := mul_nonneg (Nat.cast_nonneg _) span.number_nonneg
  have threshold := @Binary64.zpow_le_round_iff ((count : ℚ) * span.number) 64 (by norm_num) nonneg
  norm_num at threshold
  unfold scaled?
  rw [ofInt_natCast few, ofNumber?_eq_none_iff (Binary64.round_nonneg nonneg), threshold]

end Span

namespace StallPlan

variable {interval : Int64}

/-! ### The plan of any interval -/

/-- The length of a stall is twenty to fifty-three steps. -/
theorem stepTenths_mul_mem_range (interval : Int64) :
    20 * stepTenths interval ≤ 10 * max 100 (fiveIntervals interval) ∧
      10 * max 100 (fiveIntervals interval) ≤ 53 * stepTenths interval := by
  have greatest : Int64.maxValue.toInt = 9223372036854775807 := by decide
  have most := interval.toInt_lt
  have least := interval.le_toInt
  unfold stepTenths nextSecond fiveIntervals ceilingMultiplier maxCounter
  rw [greatest]
  omega

/-- The length of a stall is rounded once. -/
theorem abs_sleepTime_sub_le (interval : Int64) :
    |(ofInterval interval).sleepTime - ((max 100 (fiveIntervals interval) : ℕ) : ℚ)| ≤
      ((max 100 (fiveIntervals interval) : ℕ) : ℚ) / 9007199254740992 := by
  by_cases small : fiveIntervals interval < 9007199254740992
  · rw [sleepTime_eq small, sub_self, abs_zero]
    positivity
  · have long : 100 ≤ fiveIntervals interval := by omega
    have cast : (9007199254740992 : ℚ) ≤ fiveIntervals interval := by
      exact_mod_cast not_lt.mp small
    have close := abs_ofInt_natCast_sub_le (fiveIntervals interval)
    have enough : ¬ Binary64.ofInt (fiveIntervals interval : ℤ) < 100 := by
      linarith [(abs_le.mp close).1]
    have rounded : (ofInterval interval).sleepTime =
        Binary64.ofInt (fiveIntervals interval : ℤ) := if_neg enough
    rw [rounded, max_eq_right long]
    exact close

/-- The length of a step is rounded at most twice. -/
theorem abs_interval_sub_le_mul (interval : Int64) :
    |(ofInterval interval).interval - (stepTenths interval : ℚ) / 10| ≤
      (stepTenths interval : ℚ) / 10 / 2251799813685248 := by
  have twenty : (20 : ℚ) ≤ stepTenths interval := by exact_mod_cast twenty_le_stepTenths interval
  by_cases small : nextSecond interval ≤ 2147483649
  · have close := @abs_round_sub_le_of_one_le ((stepTenths interval : ℚ) / 10) (by linarith)
    rw [interval_eq_round small]
    linarith
  · have tenths : stepTenths interval = nextSecond interval := max_eq_left (by omega)
    have long : (2147483649 : ℚ) ≤ nextSecond interval := by
      exact_mod_cast (not_le.mp small).le
    have whole := abs_le.mp (abs_ofInt_natCast_sub_le (nextSecond interval))
    have tenth := abs_le.mp (@abs_round_sub_le_of_one_le
      (Binary64.ofInt (nextSecond interval : ℤ) / 10) (by linarith [whole.1]))
    have enough : ¬ Binary64.round (Binary64.ofInt (nextSecond interval : ℤ) / 10) < 2 := by
      linarith [whole.1, tenth.1]
    have rounded : (ofInterval interval).interval =
        Binary64.round (Binary64.ofInt (nextSecond interval : ℤ) / 10) := if_neg enough
    rw [rounded, tenths, abs_le]
    constructor <;> linarith [whole.1, whole.2, tenth.1, tenth.2]

/-- The quotient of the two lengths, before it is rounded. -/
def quotient (interval : Int64) : ℚ :=
  (ofInterval interval).sleepTime / (ofInterval interval).interval

/-- The rounding of the two lengths hardly changes their quotient. -/
theorem abs_quotient_sub_le (interval : Int64) :
    |quotient interval -
        ((10 * max 100 (fiveIntervals interval) : ℕ) : ℚ) / (stepTenths interval : ℚ)| ≤
      1 / 2199023255552 := by
  obtain ⟨least, most⟩ := stepTenths_mul_mem_range interval
  have length := abs_le.mp (abs_sleepTime_sub_le interval)
  have step := abs_le.mp (abs_interval_sub_le_mul interval)
  have twenty := twenty_le_stepTenths interval
  unfold quotient
  generalize (ofInterval interval).sleepTime = total at length ⊢
  generalize (ofInterval interval).interval = long at step ⊢
  generalize max 100 (fiveIntervals interval) = seconds at least most length ⊢
  generalize stepTenths interval = tenths at least most step twenty ⊢
  qify at least most twenty
  push_cast
  have positive : (0 : ℚ) < tenths := by linarith
  have longer : 0 < long := by linarith [step.1]
  have nonneg : (20 : ℚ) ≤ 10 * seconds / tenths := by
    rw [le_div_iff₀ positive]
    exact least
  have exact : 10 * (seconds : ℚ) / tenths * (tenths / 10) = seconds := by
    field_simp
  generalize 10 * (seconds : ℚ) / tenths = quotient at nonneg exact ⊢
  have above : total / long ≤ quotient + 1 / 2199023255552 := by
    have product := mul_le_mul_of_nonneg_left step.1
      (by linarith : 0 ≤ quotient + 1 / 2199023255552)
    rw [div_le_iff₀ longer]
    linarith [length.2]
  have below : quotient - 1 / 2199023255552 ≤ total / long := by
    have product := mul_le_mul_of_nonneg_left step.2
      (by linarith : 0 ≤ quotient - 1 / 2199023255552)
    rw [le_div_iff₀ longer]
    linarith [length.1]
  rw [abs_le]
  constructor <;> linarith

theorem quotient_mem_range (interval : Int64) :
    19 ≤ quotient interval ∧ quotient interval ≤ 54 := by
  obtain ⟨least, most⟩ := stepTenths_mul_mem_range interval
  have close := abs_le.mp (abs_quotient_sub_le interval)
  have positive := stepTenths_pos interval
  generalize 10 * max 100 (fiveIntervals interval) = seconds at least most close
  generalize stepTenths interval = tenths at least most close positive
  qify at least most positive
  have lower : (20 : ℚ) ≤ (seconds : ℚ) / tenths := by
    rw [le_div_iff₀ positive]
    exact least
  have upper : (seconds : ℚ) / tenths ≤ 53 := by
    rw [div_le_iff₀ positive]
    exact most
  constructor <;> linarith [close.1, close.2]

/-- The quotient is rounded by next to nothing. -/
theorem abs_round_quotient_sub_self_le (interval : Int64) :
    |Binary64.round (quotient interval) - quotient interval| ≤
      quotient interval / 9007199254740992 :=
  abs_round_sub_le_of_one_le (by linarith [(quotient_mem_range interval).1])

/-! ### The number of steps -/

/-- The number of steps is the whole part of the rounded quotient. -/
theorem le_repeats_iff (interval : Int64) {count : ℕ} :
    count ≤ (ofInterval interval).repeats ↔ (count : ℚ) ≤ Binary64.round (quotient interval) := by
  obtain ⟨least, most⟩ := quotient_mem_range interval
  have close := abs_le.mp (abs_round_quotient_sub_self_le interval)
  have many : 18 ≤ (Binary64.round (quotient interval)).floor := by
    rw [Rat.le_floor_iff]
    push_cast
    linarith [close.1]
  have few : (Binary64.round (quotient interval)).floor < 55 := by
    rw [Rat.floor_lt_iff]
    push_cast
    linarith [close.2]
  have counted : (ofInterval interval).repeats =
      min (Binary64.round (quotient interval)).floor.toNat maxCounter := rfl
  have cast : (count : ℚ) = ((count : ℤ) : ℚ) := by norm_cast
  rw [cast, ← Rat.le_floor_iff, counted]
  unfold maxCounter
  omega

theorem repeats_le_round (interval : Int64) :
    ((ofInterval interval).repeats : ℚ) ≤ Binary64.round (quotient interval) :=
  (le_repeats_iff interval).mp le_rfl

theorem round_lt_repeats (interval : Int64) :
    Binary64.round (quotient interval) < (ofInterval interval).repeats + 1 := by
  by_contra reached
  have more := (@le_repeats_iff interval ((ofInterval interval).repeats + 1)).mpr (by
    push_cast
    exact not_lt.mp reached)
  omega

/-- The number of steps is the one that the rounded quotient lies above by less than one. -/
theorem repeats_eq_iff {count : ℕ} : (ofInterval interval).repeats = count ↔
    (count : ℚ) ≤ Binary64.round (quotient interval) ∧
      Binary64.round (quotient interval) < count + 1 := by
  constructor
  · rintro rfl
    exact ⟨repeats_le_round interval, round_lt_repeats interval⟩
  · rintro ⟨least, most⟩
    have below : ((ofInterval interval).repeats : ℚ) < ((count + 1 : ℕ) : ℚ) := by
      push_cast
      exact (repeats_le_round interval).trans_lt most
    exact le_antisymm (Nat.le_of_lt_succ (by exact_mod_cast below))
      ((le_repeats_iff interval).mpr least)

/-- A stall of any interval has eighteen to fifty-four steps. -/
theorem repeats_bounds (interval : Int64) :
    18 ≤ (ofInterval interval).repeats ∧ (ofInterval interval).repeats ≤ 54 := by
  obtain ⟨least, most⟩ := quotient_mem_range interval
  have close := abs_le.mp (abs_round_quotient_sub_self_le interval)
  constructor
  · rw [le_repeats_iff]
    push_cast
    linarith [close.1]
  · have below : ((ofInterval interval).repeats : ℚ) < 55 := by
      linarith [repeats_le_round interval, close.2]
    exact Nat.le_of_lt_succ (by exact_mod_cast below)

/-- All steps together are as long as the stall, but for the last step that does not fit and the
rounding of the quotient. -/
theorem repeats_mul_interval_mem_range (interval : Int64) :
    ((ofInterval interval).repeats : ℚ) * (ofInterval interval).interval ≤
        (ofInterval interval).sleepTime + (ofInterval interval).sleepTime / 9007199254740992 ∧
      (ofInterval interval).sleepTime - (ofInterval interval).sleepTime / 9007199254740992 ≤
        ((ofInterval interval).repeats + 1) * (ofInterval interval).interval := by
  obtain ⟨two, -⟩ := interval_mem_range interval
  have close := abs_le.mp (abs_round_quotient_sub_self_le interval)
  have positive : 0 < (ofInterval interval).interval := by linarith
  have divided : quotient interval * (ofInterval interval).interval =
      (ofInterval interval).sleepTime := div_mul_cancel₀ _ positive.ne'
  have upper := mul_le_mul_of_nonneg_right
    ((repeats_le_round interval).trans (by linarith [close.2] :
      _ ≤ quotient interval + quotient interval / 9007199254740992)) positive.le
  have lower := mul_le_mul_of_nonneg_right
    ((by linarith [close.1] : quotient interval - quotient interval / 9007199254740992 ≤ _).trans
      (round_lt_repeats interval).le) positive.le
  rw [← divided]
  constructor <;> linarith

/-! ### The step -/

/-- A step that is not shorter than 2^53 seconds is a whole number of seconds. -/
theorem exists_interval_eq_natCast (large : 9007199254740992 ≤ (ofInterval interval).interval) :
    ∃ seconds : ℕ, (ofInterval interval).interval = seconds ∧
      Binary64.ofInt (seconds : ℤ) = seconds := by
  obtain ⟨exact, divided⟩ : ∃ exact, exact = Binary64.ofInt (nextSecond interval : ℤ) / 10 :=
    ⟨_, rfl⟩
  have nonneg : 0 ≤ exact := by
    rw [divided]
    exact div_nonneg (Binary64.round_nonneg (by positivity)) (by norm_num)
  have planned : (ofInterval interval).interval = atLeast 2 (Binary64.round exact) := by
    rw [divided]
    rfl
  have rounded : (ofInterval interval).interval = Binary64.round exact := by
    rw [planned] at large ⊢
    unfold atLeast at large ⊢
    split_ifs at large ⊢
    · norm_num at large
    · rfl
  have long : (2 : ℚ) ^ (52 : ℤ) ≤ |exact| := by
    rw [abs_of_nonneg nonneg]
    by_contra short
    have close := (abs_le.mp (@Binary64.abs_round_sub_le exact 52 (by
      rw [abs_of_nonneg nonneg]
      exact not_le.mp short) (by norm_num))).2
    norm_num at short close
    rw [rounded] at large
    linarith
  obtain ⟨integer, whole⟩ := Binary64.exists_round_eq_intCast long
  have natural : 0 ≤ integer := by
    have cast : (0 : ℚ) ≤ integer := by
      rw [← whole]
      exact Binary64.round_nonneg nonneg
    exact_mod_cast cast
  obtain ⟨seconds, rfl⟩ := Int.eq_ofNat_of_zero_le natural
  refine ⟨seconds, rounded.trans whole, ?_⟩
  have kept := Binary64.round_round exact
  rw [whole] at kept
  exact kept

/-! ### All steps together -/

/-- A span of two seconds is one of one second and more. -/
theorem one_le_of_two_le {span : Span} (long : Span.ofSeconds 2 ≤ span) :
    Span.ofSeconds 1 ≤ span :=
  Nat.le_trans (by decide) long

/-- The steps together take at least nine tenths of the length of the stall. -/
theorem le_repeats_mul_nanos {step : Span}
    (near : |(step.nanos : ℚ) - (ofInterval interval).interval * 1000000000| ≤ 1 / 2) :
    ((max 100 (fiveIntervals interval) : ℕ) : ℚ) * 900000000 ≤
        (ofInterval interval).repeats * (step.nanos : ℚ) := by
  obtain ⟨least, -⟩ := stepTenths_mul_mem_range interval
  obtain ⟨-, few⟩ := repeats_bounds interval
  obtain ⟨-, lower⟩ := repeats_mul_interval_mem_range interval
  have length := (abs_le.mp (abs_sleepTime_sub_le interval)).1
  have long := (abs_le.mp (abs_interval_sub_le_mul interval)).2
  have hundred : 100 ≤ max 100 (fiveIntervals interval) := le_max_left _ _
  have spread := (abs_le.mp near).1
  generalize (ofInterval interval).sleepTime = total at *
  generalize (ofInterval interval).interval = exact at *
  generalize (ofInterval interval).repeats = repeats at *
  generalize max 100 (fiveIntervals interval) = seconds at *
  generalize stepTenths interval = tenths at *
  qify at least few hundred
  have product := mul_le_mul_of_nonneg_left
    (by linarith : exact * 1000000000 - 1 / 2 ≤ step.nanos) (Nat.cast_nonneg (α := ℚ) repeats)
  linarith

/-- The number of steps is a number of the format. -/
theorem repeats_lt (interval : Int64) : (ofInterval interval).repeats < 9007199254740992 :=
  lt_of_le_of_lt (repeats_bounds interval).2 (by norm_num)

/-- If the whole stall is a span, it is at least half as long as it is planned to be. -/
theorem le_window {window : Span} (made : (ofInterval interval).window? = some window) :
    max 100 (fiveIntervals interval) * 1000000000 ≤ 2 * window.nanos := by
  obtain ⟨step, planned, long, near⟩ := exists_near_step interval
  obtain ⟨many, -⟩ := repeats_bounds interval
  have most := le_repeats_mul_nanos near
  have hundred : 100 ≤ max 100 (fiveIntervals interval) := le_max_left _ _
  generalize max 100 (fiveIntervals interval) = seconds at most hundred ⊢
  have number := (abs_le.mp (Span.abs_number_sub_le_mul (one_le_of_two_le long))).1
  rw [window?_eq_scaled? planned] at made
  have product := mul_le_mul_of_nonneg_left
    (by linarith : (step.nanos : ℚ) / 1000000000 * (1 - 1 / 2251799813685248) ≤ step.number)
    (Nat.cast_nonneg (α := ℚ) (ofInterval interval).repeats)
  qify at hundred
  have close := (abs_le.mp (Span.abs_scaled_sub_le (repeats_lt interval) (by linarith) made)).1
  qify
  linarith

/-- A step of 2^53 seconds or more is a whole number of seconds, and one of the format. -/
theorem exists_step_eq_ofSeconds (large : 9007199254740992 ≤ (ofInterval interval).interval) :
    ∃ seconds : ℕ, (ofInterval interval).step? = some (Span.ofSeconds seconds) ∧
      (Span.ofSeconds seconds).number = seconds := by
  obtain ⟨seconds, whole, exact⟩ := exists_interval_eq_natCast large
  have bounded : seconds < 18446744073709551616 := by
    have next : (nextSecond interval : ℚ) ≤ 9223372036854775809 := by
      exact_mod_cast nextSecond_le_two_pow interval
    have most := (interval_mem_range interval).2
    rw [whole] at most
    have cast : (seconds : ℚ) < 18446744073709551616 := by linarith
    exact_mod_cast cast
  refine ⟨seconds, ?_, (Span.number_ofSeconds seconds).trans exact⟩
  unfold step?
  rw [whole]
  exact Span.ofNumber?_natCast bounded

/-- Steps of less than 2^53 seconds are far from the end of the range together. -/
theorem repeats_mul_lt_of_short {step : Span}
    (short : (ofInterval interval).interval < 9007199254740992) (long : Span.ofSeconds 2 ≤ step)
    (near : |(step.nanos : ℚ) - (ofInterval interval).interval * 1000000000| ≤ 1 / 2) :
    ((ofInterval interval).repeats : ℚ) * step.number < 18446744073709550592 ∧
      (ofInterval interval).repeats * step.nanos < (2 ^ 64 - 1024) * Span.perSecond := by
  obtain ⟨-, few⟩ := repeats_bounds interval
  have spread := (abs_le.mp near).2
  have number := (abs_le.mp (Span.abs_number_sub_le_mul (one_le_of_two_le long))).2
  have small : step.number ≤ 9007199254740998 := by linarith
  have brief : (step.nanos : ℚ) ≤ ((9007199254740993 * 1000000000 : ℕ) : ℚ) := by
    push_cast
    linarith
  constructor
  · have counted : ((ofInterval interval).repeats : ℚ) ≤ 54 := by exact_mod_cast few
    have product := mul_le_mul counted small step.number_nonneg (by norm_num)
    linarith
  · have product := Nat.mul_le_mul few (by exact_mod_cast brief : step.nanos ≤ _)
    unfold Span.perSecond
    omega

/-- The whole stall is no span exactly if its steps together come to within 1024 seconds of 2^64
seconds. -/
theorem window?_eq_none_iff {step : Span} (planned : (ofInterval interval).step? = some step) :
    (ofInterval interval).window? = none ↔
      (2 ^ 64 - 1024) * Span.perSecond ≤ (ofInterval interval).repeats * step.nanos := by
  rw [window?_eq_scaled? planned, Span.scaled?_eq_none_iff step (repeats_lt interval)]
  rcases lt_or_ge (ofInterval interval).interval 9007199254740992 with short | large
  · -- A step that may not be a whole number of seconds is far too short.
    obtain ⟨found, same, long, near⟩ := exists_near_step interval
    obtain rfl : found = step := Option.some_inj.mp (same.symm.trans planned)
    obtain ⟨numbers, nanos⟩ := repeats_mul_lt_of_short short long near
    exact iff_of_false (not_le.mpr numbers) (not_le.mpr nanos)
  · obtain ⟨seconds, made, number⟩ := exists_step_eq_ofSeconds large
    obtain rfl : Span.ofSeconds seconds = step := Option.some_inj.mp (made.symm.trans planned)
    have nanos : (Span.ofSeconds seconds).nanos = seconds * Span.perSecond := rfl
    rw [number, nanos, ← mul_assoc, Nat.mul_le_mul_right_iff (by decide : 0 < Span.perSecond)]
    exact_mod_cast Iff.rfl

/-- The whole stall is a span if five intervals stay 2^13 seconds below 2^64. -/
theorem exists_window_of_le (far : 5 * interval.toInt.natAbs + 2 ^ 13 ≤ 2 ^ 64) :
    ∃ window, (ofInterval interval).window? = some window := by
  obtain ⟨step, planned, -, near⟩ := exists_near_step interval
  rw [← Option.ne_none_iff_exists', Ne, window?_eq_none_iff planned, not_le]
  obtain ⟨upper, -⟩ := repeats_mul_interval_mem_range interval
  have length := (abs_le.mp (abs_sleepTime_sub_le interval)).2
  have five : max 100 (fiveIntervals interval) ≤ 18446744073709543424 := by
    unfold fiveIntervals ceilingMultiplier maxCounter
    omega
  have few := (repeats_bounds interval).2
  have product := mul_le_mul_of_nonneg_left
    (by linarith [(abs_le.mp near).2] :
      (step.nanos : ℚ) ≤ (ofInterval interval).interval * 1000000000 + 1 / 2)
    (Nat.cast_nonneg (α := ℚ) (ofInterval interval).repeats)
  have limit : (2 ^ 64 - 1024) * Span.perSecond = 18446744073709550592000000000 := rfl
  rw [limit]
  generalize max 100 (fiveIntervals interval) = seconds at five length
  qify at five few ⊢
  linarith

/-- The plan of every interval has at least one step, and its step is a span of two seconds or more.
The whole stall is a span as long as its steps together stay more than 1024 seconds below 2^64
seconds, and so it is unless five intervals come to within 2^13 seconds of that; it is then at least
half as long as it is planned to be. -/
theorem spans_of_plan (interval : Int64) :
    1 ≤ (ofInterval interval).repeats ∧ ∃ step, (ofInterval interval).step? = some step ∧
      Span.ofSeconds 2 ≤ step ∧
      ((ofInterval interval).window? = none ↔
        (2 ^ 64 - 1024) * Span.perSecond ≤ (ofInterval interval).repeats * step.nanos) ∧
      (5 * interval.toInt.natAbs + 2 ^ 13 ≤ 2 ^ 64 →
        ∃ window, (ofInterval interval).window? = some window) ∧
      ∀ window, (ofInterval interval).window? = some window →
        max (min (5 * interval.toInt.natAbs) (2 ^ 64 - 1)) 100 * Span.perSecond ≤
          2 * window.nanos := by
  obtain ⟨step, planned, long, -⟩ := exists_near_step interval
  refine ⟨le_trans (by norm_num) (repeats_bounds interval).1, step, planned, long,
    window?_eq_none_iff planned, exists_window_of_le, fun window made ↦ ?_⟩
  have length : max (min (5 * interval.toInt.natAbs) (2 ^ 64 - 1)) 100 =
      max 100 (fiveIntervals interval) := by
    unfold fiveIntervals ceilingMultiplier maxCounter
    omega
  rw [length]
  exact le_window made

/-- The longest interval of which five stay so far below 2^64 seconds. -/
theorem spans_of_plan_far :
    5 * (3689348814741908684 : Int64).toInt.natAbs + 2 ^ 13 ≤ 2 ^ 64 ∧
      ∃ window, (ofInterval 3689348814741908684).window? = some window ∧
        18446744073709543420 * Span.perSecond ≤ 2 * window.nanos := by
  have far : 5 * (3689348814741908684 : Int64).toInt.natAbs + 2 ^ 13 ≤ 2 ^ 64 := by decide
  obtain ⟨-, step, -, -, -, spans, half⟩ := spans_of_plan 3689348814741908684
  obtain ⟨window, made⟩ := spans far
  exact ⟨far, window, made, half window made⟩

/-- Twenty-three steps of 802032351030850048 seconds are 512 seconds short of 2^64, so their sum is
a span, but the product is rounded to 2^64 seconds. -/
theorem window?_eq_none : (ofInterval 8020323510308500479).repeats = 23 ∧
    (ofInterval 8020323510308500479).step? = some (Span.ofSeconds 802032351030850048) ∧
    23 * 802032351030850048 + 512 = 2 ^ 64 ∧
    (ofInterval 8020323510308500479).window? = none := by
  decide +kernel

end StallPlan

end Heartbeat
