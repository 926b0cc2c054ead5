import Heartbeat.Proofs.StallRange
import Heartbeat.Proofs.StallRun

/-!
# Stalls without rounding

The plan of an interval of at most `2 ^ 24` seconds is the one that whole numbers give, although it
is computed in floating point. The step is rounded to nanoseconds once more, and that takes the
first rounding back (`StallPlan.step?_eq`). The count is the whole part of a rounded quotient. A
quotient that is no whole number is too far from the next one to be rounded to it
(`StallPlan.round_quotient_mem_range`). A quotient that is a whole number comes only of steps of
whole and half seconds (`StallPlan.five_dvd_stepTenths`), and then nothing is rounded.

So a stall that begins in a run takes exactly the time of that plan, from the ceiling to its end
(`Progress.Stalls`, `StallPlan.exact_stall`).
-/

set_option autoImplicit false
set_option relaxedAutoImplicit false

namespace Heartbeat

namespace StallPlan

section Narrow

/-! ### Plans without rounding -/

variable {interval : Int64} (narrow : interval.toInt.natAbs ≤ 16777216)

include narrow

theorem stepTenths_eq : stepTenths interval = max (interval.toInt + 1).natAbs 20 := by
  have greatest : Int64.maxValue.toInt = 9223372036854775807 := by decide
  unfold stepTenths nextSecond
  rw [greatest]
  omega

theorem fiveIntervals_eq_mul : fiveIntervals interval = 5 * interval.toInt.natAbs := by
  unfold fiveIntervals ceilingMultiplier maxCounter
  omega

/-- The step is a whole number of tenths of a second, to the nanosecond. -/
theorem step?_eq : (ofInterval interval).step? = some ⟨stepTenths interval * 100000000⟩ := by
  have tenths := stepTenths_eq narrow
  have next : nextSecond interval ≤ 16777217 := by
    have next := nextSecond_le interval
    omega
  have most : (stepTenths interval : ℚ) ≤ 16777217 := by
    exact_mod_cast (by omega : stepTenths interval ≤ 16777217)
  have close := abs_le.mp (@Binary64.abs_round_sub_le ((stepTenths interval : ℚ) / 10) 21 (by
    rw [abs_of_nonneg (by positivity)]
    norm_num
    linarith) (by norm_num))
  rw [← interval_eq_round (by omega)] at close
  norm_num at close
  obtain ⟨step, planned, -, near⟩ := exists_near_step interval
  have spread := abs_le.mp near
  have lower : ((stepTenths interval * 100000000 : ℕ) : ℚ) < ((step.nanos + 1 : ℕ) : ℚ) := by
    push_cast
    linarith [close.1, spread.1]
  have upper : (step.nanos : ℚ) < ((stepTenths interval * 100000000 + 1 : ℕ) : ℚ) := by
    push_cast
    linarith [close.2, spread.2]
  have same : step.nanos = stepTenths interval * 100000000 :=
    le_antisymm (Nat.le_of_lt_succ (by exact_mod_cast upper))
      (Nat.le_of_lt_succ (by exact_mod_cast lower))
  rw [planned, ← same]

/-- If whole steps fill a stall, a step is a whole number of half seconds. -/
theorem five_dvd_stepTenths
    (fills : stepTenths interval ∣ 10 * max 100 (fiveIntervals interval)) :
    5 ∣ stepTenths interval := by
  have tenths := stepTenths_eq narrow
  have five := fiveIntervals_eq_mul narrow
  by_cases short : stepTenths interval = 20
  · rw [short]
    norm_num
  · -- Ten stalls are fifty steps and five seconds more or less.
    have length : 10 * max 100 (fiveIntervals interval) = 50 * stepTenths interval + 50 ∨
        10 * max 100 (fiveIntervals interval) + 50 = 50 * stepTenths interval := by omega
    have divides : stepTenths interval ∣ 50 := by
      rcases length with more | less
      · rw [more] at fills
        exact (Nat.dvd_add_right (Dvd.intro_left 50 rfl)).mp fills
      · exact (Nat.dvd_add_right fills).mp (less ▸ Dvd.intro_left 50 rfl)
    have most : stepTenths interval ≤ 50 := Nat.le_of_dvd (by norm_num) divides
    have least : 20 < stepTenths interval := by omega
    have divisors : ∀ count ≤ 50, 20 < count → count ∣ 50 → 5 ∣ count := by decide
    exact divisors _ most least divides

/-- If whole steps fill a stall, nothing is rounded. -/
theorem quotient_eq_natCast {count : ℕ}
    (fills : 10 * max 100 (fiveIntervals interval) = stepTenths interval * count) :
    quotient interval = count := by
  have five := fiveIntervals_eq_mul narrow
  have next := nextSecond_le interval
  have half := five_dvd_stepTenths narrow (Dvd.intro count fills.symm)
  have positive := stepTenths_pos interval
  unfold quotient
  rw [sleepTime_eq (by omega), interval_eq_of_dvd (by omega) half]
  generalize max 100 (fiveIntervals interval) = seconds at fills
  qify at fills positive
  rw [div_eq_iff (by positivity)]
  linarith

/-- If whole steps do not fill a stall, the quotient is too far from a whole number to be rounded to
it. -/
theorem round_quotient_mem_range
    (unfilled : ¬ stepTenths interval ∣ 10 * max 100 (fiveIntervals interval)) :
    ((10 * max 100 (fiveIntervals interval) / stepTenths interval : ℕ) : ℚ) ≤
        Binary64.round (quotient interval) ∧
      Binary64.round (quotient interval) <
        ((10 * max 100 (fiveIntervals interval) / stepTenths interval : ℕ) : ℚ) + 1 := by
  have next := nextSecond_le interval
  have most : stepTenths interval ≤ 16777217 := max_le (by omega) (by norm_num)
  have positive := stepTenths_pos interval
  have close := abs_le.mp (abs_quotient_sub_le interval)
  have rounded := abs_le.mp (abs_round_quotient_sub_self_le interval)
  obtain ⟨-, few⟩ := quotient_mem_range interval
  generalize quotient interval = exact at *
  generalize 10 * max 100 (fiveIntervals interval) = seconds at *
  generalize stepTenths interval = tenths at *
  obtain ⟨count, counted⟩ : ∃ count, count = seconds / tenths := ⟨_, rfl⟩
  have rest : seconds % tenths ≠ 0 := fun none ↦ unfilled (Nat.dvd_of_mod_eq_zero none)
  have division := Nat.div_add_mod seconds tenths
  have small := Nat.mod_lt seconds positive
  rw [← counted] at division ⊢
  have lower : tenths * count + 1 ≤ seconds := by omega
  have upper : seconds + 1 ≤ tenths * count + tenths := by omega
  qify at lower upper most positive
  have above : (count : ℚ) + 1 / 16777217 ≤ (seconds : ℚ) / tenths := by
    rw [le_div_iff₀ positive]
    linarith
  have below : (seconds : ℚ) / tenths ≤ (count : ℚ) + 1 - 1 / 16777217 := by
    rw [div_le_iff₀ positive]
    linarith
  constructor <;> linarith

/-- The number of steps is the whole part of the exact quotient. -/
theorem repeats_eq : (ofInterval interval).repeats =
    10 * max 100 (fiveIntervals interval) / stepTenths interval := by
  have positive := stepTenths_pos interval
  by_cases fills : stepTenths interval ∣ 10 * max 100 (fiveIntervals interval)
  · obtain ⟨count, product⟩ := fills
    have exact := quotient_eq_natCast narrow product
    have few : count < 9007199254740992 := by
      have most : (count : ℚ) ≤ 54 := exact.symm.trans_le (quotient_mem_range interval).2
      have cast : (count : ℚ) < 9007199254740992 := by linarith
      exact_mod_cast cast
    have kept : Binary64.round (quotient interval) = count := by
      rw [exact]
      exact Binary64.ofInt_natCast few
    rw [product, Nat.mul_div_cancel_left count positive, repeats_eq_iff, kept]
    exact ⟨le_rfl, lt_add_one _⟩
  · rw [repeats_eq_iff]
    exact round_quotient_mem_range narrow fills

end Narrow

/-- The step of a stall in whole numbers. -/
def exactStep (interval : Int64) : Span :=
  ⟨max (interval.toInt + 1).natAbs 20 * 100000000⟩

/-- The number of steps of a stall in whole numbers. -/
def exactRepeats (interval : Int64) : ℕ :=
  10 * max (5 * interval.toInt.natAbs) 100 / max (interval.toInt + 1).natAbs 20

/-- So many steps fill the stall, but for less than one step. -/
theorem exactRepeats_mul_exactStep (interval : Int64) :
    exactRepeats interval * (exactStep interval).nanos ≤
        max (5 * interval.toInt.natAbs) 100 * Span.perSecond ∧
      max (5 * interval.toInt.natAbs) 100 * Span.perSecond <
        (exactRepeats interval + 1) * (exactStep interval).nanos := by
  unfold exactRepeats exactStep Span.perSecond
  dsimp only
  have positive : 0 < max (interval.toInt + 1).natAbs 20 :=
    lt_of_lt_of_le (by norm_num) (le_max_right _ 20)
  generalize max (interval.toInt + 1).natAbs 20 = tenths at *
  generalize max (5 * interval.toInt.natAbs) 100 = seconds at *
  have whole := Nat.div_mul_le_self (10 * seconds) tenths
  have more := Nat.lt_div_mul_add positive (a := 10 * seconds)
  generalize 10 * seconds / tenths = count at *
  rw [← mul_assoc, ← mul_assoc, Nat.succ_mul]
  omega

/-- The plan of a narrow interval in whole numbers. -/
theorem plan_eq {interval : Int64} (narrow : interval.toInt.natAbs ≤ 16777216) :
    (ofInterval interval).step? = some (exactStep interval) ∧
      (ofInterval interval).repeats = exactRepeats interval := by
  rw [step?_eq narrow, repeats_eq narrow, stepTenths_eq narrow, fiveIntervals_eq_mul narrow,
    max_comm 100]
  exact ⟨rfl, rfl⟩

end StallPlan

namespace Progress

/-- The course of a stall in a run that has just come to a ceiling. It is completed if the clock can
count all its steps. They are then made one by one, and the stall ends when the last one does. -/
structure Stalls (schedule : Schedule) (step : Span) (repeats : ℕ) (reached : Progress)
    (ceiling : Stamped) : Prop where
  completed : (∃ last, reached.follow (schedule.moves (repeats + 1)) = .ok last) ↔
    ceiling.time.now.nanos + repeats * step.nanos < UInt64.size
  finished : ∀ last, reached.follow (schedule.moves (repeats + 1)) = .ok last →
    last.letters = reached.letters ++ (countdown repeats ++ [.stallFinished]) ∧
    ∃ finish, last.events.back? = some finish ∧ finish.event.letter = .stallFinished ∧
      finish.time.now.nanos = ceiling.time.now.nanos + repeats * step.nanos

/-- A ceiling of a machine that falls silent is the beginning of its stall. -/
theorem Dated.stalls {made : Machine} {reached : Progress} {ceiling : Stamped} {schedule : Schedule}
    {step window : Span} (dated : Dated made reached) (role : made.role = .noHeartbeat)
    (back : reached.events.back? = some ceiling) (letter : ceiling.event.letter = .ceilingReached)
    (spares : schedule.SparesClock) (planned : made.timing.stall.step? = some step)
    (short : step.nanos < UInt64.size) (whole : made.timing.stall.window? = some window) :
    Stalls schedule step made.timing.stall.repeats reached ceiling := by
  have begun := dated.silent ceiling back letter role
  rw [← dated.same.timing] at planned whole
  obtain ⟨completed, finished⟩ := follow_stall spares begun planned short whole
  have start := dated.time ceiling back
  refine ⟨by rw [start]; exact completed, fun last followed ↦ ?_⟩
  obtain ⟨-, now, letters⟩ := finished last followed
  obtain ⟨finish, ending, event, time⟩ := ((stable_dated made).follow (spares.moves _) dated
    followed).exists_last (letters.trans (List.append_assoc _ _ _).symm)
  exact ⟨letters, finish, ending, event, by rw [time, start]; exact now⟩

end Progress

namespace StallPlan

open Progress (fresh Stalls)

/-- For an interval of at most 2^24 seconds, forward or backward, the plan of a stall is the one of
whole numbers. Each stall of an undisturbed run, from a ceiling to its end, takes the time of all
the steps of that plan together, and that is the planned time but for less than one step. -/
theorem exact_stall (config : Instance) (narrow : config.interval.toInt.natAbs ≤ 2 ^ 24) :
    (ofInterval config.interval).step? = some (exactStep config.interval) ∧
      (ofInterval config.interval).repeats = exactRepeats config.interval ∧
      exactRepeats config.interval * (exactStep config.interval).nanos ≤
        max (5 * config.interval.toInt.natAbs) 100 * Span.perSecond ∧
      max (5 * config.interval.toInt.natAbs) 100 * Span.perSecond <
        (exactRepeats config.interval + 1) * (exactStep config.interval).nanos ∧
      ∀ (tap : Tap) (pid : UInt32) (world : World) (moves : List Move) (reached : Progress)
        (ceiling : Stamped), (∀ made ∈ moves, made.sparesClock = true) →
        (fresh config .noHeartbeat tap pid world).follow moves = .ok reached →
        reached.events.back? = some ceiling → ceiling.event.letter = .ceilingReached →
        ∀ schedule : Schedule, schedule.SparesClock →
          Stalls schedule (exactStep config.interval) (exactRepeats config.interval) reached
            ceiling := by
  obtain ⟨planned, count⟩ := plan_eq narrow
  obtain ⟨least, most⟩ := exactRepeats_mul_exactStep config.interval
  refine ⟨planned, count, least, most, ?_⟩
  intro tap pid world moves reached ceiling spares followed back letter schedule calm
  have five := fiveIntervals_eq_mul narrow
  obtain ⟨window, whole, -⟩ := @exists_window config.interval (by omega)
  have short : (exactStep config.interval).nanos < UInt64.size := by
    have size : UInt64.size = 18446744073709551616 := rfl
    show max (config.interval.toInt + 1).natAbs 20 * 100000000 < _
    omega
  rw [← count]
  exact ((Progress.stable_dated _).follow spares (Progress.dated_start _ world) followed).stalls
    rfl back letter calm planned short whole

/-- Twenty-six seconds backward, the quotient is exactly fifty-two: the stall takes the hundred and
thirty seconds that are planned, from the ceiling after three minutes on. -/
theorem exact_stall_backward :
    (-26 : Int64).toInt.natAbs ≤ 2 ^ 24 ∧
      (ofInterval (-26)).step? = some ⟨2500000000⟩ ∧ (ofInterval (-26)).repeats = 52 ∧
      ∃ reached ceiling last finish,
        (fresh ⟨2, "idler", 5, -26, 12345⟩ .noHeartbeat ⟨12345, 0⟩ 1007 (World.ofSeed 7)).follow
          ((Schedule.outage 3 8).moves 182) = .ok reached ∧
        reached.events.back? = some ceiling ∧ ceiling.event.letter = .ceilingReached ∧
        ceiling.time.now = Span.ofSeconds 184 ∧
        reached.follow ((Schedule.outage 3 8).moves 53) = .ok last ∧
        last.events.back? = some finish ∧ finish.event.letter = .stallFinished ∧
        finish.time.now = Span.ofSeconds 314 := by
  have narrow : (-26 : Int64).toInt.natAbs ≤ 2 ^ 24 := by decide
  have step : exactStep (-26) = ⟨2500000000⟩ := by decide
  have repeats : exactRepeats (-26) = 52 := by decide
  obtain ⟨planned, count, -, -, stalls⟩ := exact_stall ⟨2, "idler", 5, -26, 12345⟩ narrow
  rw [step, repeats] at stalls
  obtain ⟨reached, followed⟩ := exists_of_isOk (show ((fresh ⟨2, "idler", 5, -26, 12345⟩
    .noHeartbeat ⟨12345, 0⟩ 1007 (World.ofSeed 7)).follow
      ((Schedule.outage 3 8).moves 182)).isOk = true by decide +kernel)
  have arrival : (((fresh ⟨2, "idler", 5, -26, 12345⟩ .noHeartbeat ⟨12345, 0⟩ 1007
      (World.ofSeed 7)).follow ((Schedule.outage 3 8).moves 182)).toOption.bind
        fun reached ↦ reached.events.back?.map fun ceiling ↦
          (ceiling.event.letter, ceiling.time.now)) =
      some (.ceilingReached, Span.ofSeconds 184) := by decide +kernel
  rw [followed] at arrival
  obtain ⟨ceiling, back, same⟩ := Option.map_eq_some_iff.mp arrival
  obtain ⟨letter, time⟩ := Prod.mk.inj same
  have spares := Schedule.outage_sparesClock 3 8
  obtain ⟨completed, finished⟩ := stalls ⟨12345, 0⟩ 1007 (World.ofSeed 7) _ reached ceiling
    (spares.moves 182) followed back letter _ spares
  obtain ⟨last, ended⟩ := completed.mpr (by rw [time]; decide)
  obtain ⟨-, finish, final, event, now⟩ := finished last ended
  refine ⟨narrow, planned.trans (congrArg some step), count.trans repeats, reached, ceiling, last,
    finish, followed, back, letter, time, ended, final, event, ?_⟩
  rw [time] at now
  exact congrArg Span.mk now

end StallPlan

end Heartbeat
