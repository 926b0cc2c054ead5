import Heartbeat.Proofs.TraceLanguage

/-!
# The course of a stall

A stall that begins at the ceiling counts its plan down: every step of it is silent and takes the
step of the plan, and after the last one the machine returns to the loop without losing time. So a
stall takes the time of all its steps together, whatever outages begin or end meanwhile.
`Progress.Silenced` is the state of a stall with some of its steps left, `Progress.follow_stall` the
whole course: it is completed exactly if the clock can count it.

When a stall begins is read off the events (`Progress.Dated`): the last event has the time of the
world, and after a ceiling a machine that falls silent has its whole plan before it.
-/

set_option autoImplicit false
set_option relaxedAutoImplicit false

namespace Heartbeat

open Machine (SameMake Transition)

/-- At the ceiling a machine that falls silent begins its whole plan. -/
theorem Machine.Transition.stalling_of_ceilingReached {machine : Machine} {world : World}
    {outcome : Machine.Outcome} (transition : Transition machine world outcome)
    (role : machine.role = .noHeartbeat) (reached : outcome.event.letter = .ceilingReached) :
    outcome.machine.phase = .stalling machine.timing.stall.repeats := by
  cases transition with
  | fallSilent => rfl
  | goOn phase other =>
    rw [role] at other
    cases other
  | beat =>
    rw [Attempt.letter_event] at reached
    cases reached
  | delay | idle | crash | endStall | keepSilent | rest => cases reached

/-- A step that is left of a stall leaves one step less. -/
theorem Machine.Transition.eq_of_stalling {machine : Machine} {world : World}
    {outcome : Machine.Outcome} {remaining : ℕ} (transition : Transition machine world outcome)
    (phase : machine.phase = .stalling (remaining + 1)) :
    outcome.machine.phase = .stalling remaining ∧ outcome.event = .stalled remaining := by
  cases transition with
  | keepSilent stalling =>
    obtain rfl : remaining = _ := by simpa using phase.symm.trans stalling
    exact ⟨rfl, rfl⟩
  | delay other | idle other | beat other | crash other | fallSilent other | goOn other
  | endStall other | rest other => exact absurd (phase.symm.trans other) (by simp)

/-- The end of a stall leads back to the loop and takes no time. -/
theorem Machine.Transition.eq_of_stallOver {machine : Machine} {world : World}
    {outcome : Machine.Outcome} (transition : Transition machine world outcome)
    (phase : machine.phase = .stalling 0) :
    outcome.machine.phase = .looping ∧ outcome.event = .stallFinished ∧ outcome.world = world := by
  cases transition with
  | endStall => exact ⟨rfl, rfl, rfl⟩
  | delay other | idle other | beat other | crash other | fallSilent other | goOn other
  | keepSilent other | rest other => exact absurd (phase.symm.trans other) (by simp)

namespace Progress

/-! ### The last event -/

/-- The last event has the time of the world, and a ceiling is followed by the whole stall. -/
structure Dated (made : Machine) (progress : Progress) : Prop where
  same : SameMake made progress.machine
  time : ∀ stamped, progress.events.back? = some stamped → stamped.time = progress.world.clock
  silent : ∀ stamped, progress.events.back? = some stamped →
    stamped.event.letter = .ceilingReached → made.role = .noHeartbeat →
      progress.machine.phase = .stalling made.timing.stall.repeats

theorem dated_start (machine : Machine) (world : World) : Dated machine (start machine world) where
  same := SameMake.refl machine
  time _ last := by cases last
  silent _ last := by cases last

theorem stable_dated (made : Machine) : Stable (Dated made) where
  step progress outcome dated transition := by
    have pushed : (after progress.events progress.notices outcome).events.back? =
        some ⟨outcome.world.clock, outcome.event⟩ := Array.back?_push
    refine ⟨dated.same.trans transition.sameMake, ?_, ?_⟩
    · intro stamped last
      rw [pushed] at last
      cases last
      rfl
    · intro stamped last reached role
      rw [pushed] at last
      cases last
      rw [← dated.same.timing]
      exact transition.stalling_of_ceilingReached (dated.same.role.trans role) reached
  outside _ _ _ dated := ⟨dated.same, dated.time, dated.silent⟩

/-- The last letter is that of an event with the time of the world. -/
theorem Dated.exists_last {made : Machine} {progress : Progress} (dated : Dated made progress)
    {before : List Letter} {letter : Letter} (ending : progress.letters = before ++ [letter]) :
    ∃ stamped, progress.events.back? = some stamped ∧ stamped.event.letter = letter ∧
      stamped.time = progress.world.clock := by
  have last : progress.letters.getLast? = some letter := by
    rw [ending, List.getLast?_concat]
  unfold letters at last
  rw [List.getLast?_map, Array.getLast?_toList, Option.map_eq_some_iff] at last
  obtain ⟨stamped, back, same⟩ := last
  exact ⟨stamped, back, same, dated.time stamped back⟩

/-! ### The steps of a stall -/

/-- A stall with some of its steps left: the time and the letters that are still to come make up
those of the whole stall. -/
structure Silenced (first : Progress) (step : Span) (repeats remaining : ℕ) (progress : Progress) :
    Prop where
  same : SameMake first.machine progress.machine
  phase : progress.machine.phase = .stalling remaining
  now : progress.world.clock.now.nanos + remaining * step.nanos =
    first.world.clock.now.nanos + repeats * step.nanos
  letters : progress.letters ++ countdown remaining = first.letters ++ countdown repeats

namespace Silenced

variable {first progress : Progress} {step : Span} {repeats remaining : ℕ}
  {outcome : Machine.Outcome}

theorem disturbed (silenced : Silenced first step repeats remaining progress) (stream : Keystream)
    (unreachable : Bool) :
    Silenced first step repeats remaining (progress.disturbed stream unreachable) :=
  ⟨silenced.same, silenced.phase, silenced.now, silenced.letters⟩

/-- A step that is left is taken if the clock can count it. -/
theorem exists_transition (silenced : Silenced first step repeats (remaining + 1) progress)
    (planned : first.machine.timing.stall.step? = some step)
    (fits : progress.world.clock.now.nanos + step.nanos < UInt64.size) :
    ∃ outcome, Transition progress.machine progress.world outcome := by
  obtain ⟨later, waited, -⟩ := World.exists_advance fits
  rw [← silenced.same.timing] at planned
  exact ⟨_, .keepSilent silenced.phase planned waited⟩

/-- A step that is taken leaves one step less. -/
theorem next (silenced : Silenced first step repeats (remaining + 1) progress)
    (planned : first.machine.timing.stall.step? = some step) (short : step.nanos < UInt64.size)
    (transition : Transition progress.machine progress.world outcome) :
    Silenced first step repeats remaining (after progress.events progress.notices outcome) := by
  rw [← silenced.same.timing] at planned
  have moved := transition.now_eq_of_stalling silenced.phase planned short
  obtain ⟨phase, event⟩ := transition.eq_of_stalling silenced.phase
  have now := silenced.now
  rw [Nat.succ_mul] at now
  refine ⟨silenced.same.trans transition.sameMake, phase, ?_, ?_⟩
  · show outcome.world.clock.now.nanos + _ = _
    omega
  · rw [letters_after, event, List.append_assoc]
    exact silenced.letters

end Silenced

section Course

variable {first : Progress} {schedule : Schedule} {step : Span} {repeats : ℕ}
  (spares : schedule.SparesClock) (begun : first.machine.phase = .stalling repeats)
  (planned : first.machine.timing.stall.step? = some step) (short : step.nanos < UInt64.size)

include spares begun planned short

/-- As far as a run has come in a stall, it has made the steps of the stall. -/
theorem silenced_of_follow {count remaining : ℕ} (total : count + remaining = repeats)
    {progress : Progress} (followed : first.follow (schedule.moves count) = .ok progress) :
    Silenced first step repeats remaining progress := by
  induction count generalizing remaining progress with
  | zero =>
    cases followed
    obtain rfl : remaining = repeats := by omega
    exact ⟨SameMake.refl _, begun, rfl, rfl⟩
  | succ count ih =>
    obtain ⟨before, stream, unreachable, early, moved⟩ :=
      exists_of_follow_moves_succ spares followed
    obtain ⟨outcome, transition, rfl⟩ := move_step_eq_ok_iff.mp moved
    have silenced := ih (by omega : count + (remaining + 1) = repeats) early
    exact (silenced.disturbed stream unreachable).next planned short transition

/-- A run comes as far in a stall as the clock can count. -/
theorem exists_follow_of_stalling {count : ℕ} (within : count ≤ repeats)
    (fits : first.world.clock.now.nanos + count * step.nanos < UInt64.size) :
    ∃ progress, first.follow (schedule.moves count) = .ok progress := by
  induction count with
  | zero => exact ⟨first, rfl⟩
  | succ count ih =>
    rw [Nat.succ_mul] at fits
    obtain ⟨before, early⟩ := ih (by omega) (by omega)
    obtain ⟨remaining, rfl⟩ := Nat.exists_eq_add_of_lt within
    have silenced := silenced_of_follow spares begun planned short
      (Nat.add_assoc count remaining 1).symm early
    obtain ⟨stream, unreachable, moved⟩ := follow_moves_succ spares early
    have now := silenced.now
    have parts := Nat.add_mul count (remaining + 1) step.nanos
    rw [Nat.add_assoc count remaining 1] at now
    have room : before.world.clock.now.nanos + step.nanos < UInt64.size := by omega
    obtain ⟨outcome, transition⟩ :=
      (silenced.disturbed stream unreachable).exists_transition planned room
    exact ⟨_, moved.trans (move_step_eq_ok_iff.mpr ⟨outcome, transition, rfl⟩)⟩

/-- A stall is completed exactly if the clock can count all its steps. It then has made them one by
one, it is back in the loop, and so much time has passed. -/
theorem follow_stall {window : Span} (whole : first.machine.timing.stall.window? = some window) :
    ((∃ last, first.follow (schedule.moves (repeats + 1)) = .ok last) ↔
        first.world.clock.now.nanos + repeats * step.nanos < UInt64.size) ∧
      ∀ last, first.follow (schedule.moves (repeats + 1)) = .ok last →
        last.machine.phase = .looping ∧
        last.world.clock.now.nanos = first.world.clock.now.nanos + repeats * step.nanos ∧
        last.letters = first.letters ++ (countdown repeats ++ [.stallFinished]) := by
  have silent {last : Progress} := @silenced_of_follow first schedule step repeats spares begun
    planned short repeats 0 (by omega) last
  have ends : ∀ last, first.follow (schedule.moves (repeats + 1)) = .ok last →
      last.machine.phase = .looping ∧
      last.world.clock.now.nanos = first.world.clock.now.nanos + repeats * step.nanos ∧
      last.letters = first.letters ++ (countdown repeats ++ [.stallFinished]) := by
    intro last followed
    obtain ⟨before, stream, unreachable, early, moved⟩ :=
      exists_of_follow_moves_succ spares followed
    obtain ⟨outcome, transition, rfl⟩ := move_step_eq_ok_iff.mp moved
    have silenced := silent early
    obtain ⟨phase, event, world⟩ := transition.eq_of_stallOver silenced.phase
    refine ⟨phase, ?_, ?_⟩
    · show outcome.world.clock.now.nanos = _
      rw [world]
      have now := silenced.now
      rwa [Nat.zero_mul, Nat.add_zero] at now
    · rw [letters_after, event, ← List.append_assoc, ← silenced.letters, countdown,
        List.append_nil]
      rfl
  refine ⟨⟨?_, ?_⟩, ends⟩
  · rintro ⟨last, followed⟩
    rw [← (ends last followed).2.1]
    exact last.world.clock.nanos_now_lt
  · intro fits
    obtain ⟨before, early⟩ := exists_follow_of_stalling spares begun planned short le_rfl fits
    obtain ⟨stream, unreachable, moved⟩ := follow_moves_succ spares early
    have silenced := (silent early).disturbed stream unreachable
    rw [← silenced.same.timing] at whole
    exact ⟨_, moved.trans (move_step_eq_ok_iff.mpr ⟨_, .endStall silenced.phase whole, rfl⟩)⟩

end Course

end Progress

end Heartbeat
