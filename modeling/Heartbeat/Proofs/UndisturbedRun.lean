import Heartbeat.Progress
import Heartbeat.Proofs.Transition

/-!
# Runs on a clock that only the machine moves

A run is undisturbed when nobody but the machine moves its clock. Outages may begin and end between
the steps, and others may draw from the keystream; what that does to a world is `World.disturbed`.
`Progress.Stable` collects what an invariant of such runs has to satisfy, one condition for a step
and one for a disturbance, and `Progress.Stable.follow` is the induction over a list of moves.

A `Schedule` fixes what is done before each step of a run of any length. The moves of a schedule
make a run one step at a time (`Progress.follow_moves_succ`); under the schedule in which nothing is
done, one step more is a step and nothing else (`Progress.follow_calm_succ`).
-/

set_option autoImplicit false
set_option relaxedAutoImplicit false

namespace Heartbeat

open Machine (Transition)

/-! ### Moves that leave the clock alone -/

/-- An intervention leaves the clock to the machine: it neither advances nor sets it. -/
def Intervention.sparesClock : Intervention → Bool
  | .advance _ | .setTime _ => false
  | .setUnreachable _ | .draw _ _ => true

/-- A move leaves the clock to the machine. -/
def Move.sparesClock : Move → Bool
  | .step => true
  | .outside intervention => intervention.sparesClock

/-- The world with another keystream and another outage flag. -/
def World.disturbed (world : World) (stream : Keystream) (unreachable : Bool) : World :=
  { world with
    stream := stream
    recorder := { world.recorder with unreachable := unreachable } }

/-- Interventions that leave the clock alone change the keystream or the outage flag. -/
theorem World.undergo_of_sparesClock (world : World) {intervention : Intervention}
    (spares : intervention.sparesClock = true) :
    ∃ stream unreachable,
      world.undergo intervention = .ok (world.disturbed stream unreachable) := by
  cases intervention with
  | advance span => cases spares
  | setTime time => cases spares
  | setUnreachable unreachable => exact ⟨world.stream, unreachable, rfl⟩
  | draw low high =>
    exact ⟨(world.stream.draw low high).2, world.recorder.unreachable, rfl⟩

namespace Progress

/-- The progress in a disturbed world. -/
def disturbed (progress : Progress) (stream : Keystream) (unreachable : Bool) : Progress :=
  { progress with world := progress.world.disturbed stream unreachable }

/-! ### Moves one after the other -/

theorem move_step_eq_ok_iff {progress last : Progress} :
    progress.move .step = .ok last ↔
      ∃ outcome, Transition progress.machine progress.world outcome ∧
        after progress.events progress.notices outcome = last := by
  unfold move
  rw [map_eq_ok_iff]
  exact exists_congr fun outcome ↦ and_congr_left fun _ ↦ Machine.step_eq_ok_iff

theorem move_outside_of_sparesClock (progress : Progress) {intervention : Intervention}
    (spares : intervention.sparesClock = true) :
    ∃ stream unreachable,
      progress.move (.outside intervention) = .ok (progress.disturbed stream unreachable) := by
  obtain ⟨stream, unreachable, undergone⟩ := progress.world.undergo_of_sparesClock spares
  exact ⟨stream, unreachable, map_eq_ok_iff.mpr ⟨_, undergone, rfl⟩⟩

@[simp]
theorem follow_nil (progress : Progress) : progress.follow [] = .ok progress := rfl

theorem follow_cons (progress : Progress) (first : Move) (moves : List Move) :
    progress.follow (first :: moves) = (progress.move first).bind (follow moves) := rfl

theorem follow_append (progress : Progress) (early late : List Move) :
    progress.follow (early ++ late) = (progress.follow early).bind (follow late) := by
  induction early generalizing progress with
  | nil => rfl
  | cons first early ih =>
    rw [List.cons_append, follow_cons, follow_cons]
    cases progress.move first with
    | error fault => rfl
    | ok next => exact ih next

/-- Every step has one event, and nothing else has any. -/
theorem size_events_of_follow {moves : List Move} {progress last : Progress}
    (followed : progress.follow moves = .ok last) :
    last.events.size = progress.events.size + moves.count .step := by
  induction moves generalizing progress with
  | nil =>
    cases followed
    rfl
  | cons first moves ih =>
    rw [follow_cons, bind_eq_ok_iff] at followed
    obtain ⟨next, moved, rest⟩ := followed
    rw [ih rest]
    cases first with
    | step =>
      obtain ⟨outcome, -, rfl⟩ := move_step_eq_ok_iff.mp moved
      rw [List.count_cons_self]
      simp only [after, Array.size_push]
      omega
    | outside intervention =>
      obtain ⟨world, -, rfl⟩ := map_eq_ok_iff.mp moved
      rw [List.count_cons_of_ne (by simp)]

/-! ### Invariants -/

/-- A property of progress that every step keeps. -/
def Kept (holds : Progress → Prop) : Prop :=
  ∀ (progress : Progress) (outcome : Machine.Outcome), holds progress →
    Transition progress.machine progress.world outcome →
      holds (after progress.events progress.notices outcome)

/-- A property of progress that every undisturbed run keeps: a step keeps it, and so does a
disturbance that leaves the clock alone. -/
structure Stable (holds : Progress → Prop) : Prop where
  step : Kept holds
  outside : ∀ (progress : Progress) (stream : Keystream) (unreachable : Bool), holds progress →
    holds (progress.disturbed stream unreachable)

variable {holds : Progress → Prop}

theorem Stable.move (stable : Stable holds) {made : Move} (spares : made.sparesClock = true)
    {progress next : Progress} (now : holds progress) (moved : progress.move made = .ok next) :
    holds next := by
  cases made with
  | step =>
    obtain ⟨outcome, transition, rfl⟩ := move_step_eq_ok_iff.mp moved
    exact stable.step progress outcome now transition
  | outside intervention =>
    obtain ⟨stream, unreachable, undergone⟩ := progress.move_outside_of_sparesClock spares
    rw [undergone] at moved
    cases moved
    exact stable.outside progress stream unreachable now

/-- A stable property holds after every undisturbed run from a progress that has it. -/
theorem Stable.follow (stable : Stable holds) {moves : List Move}
    (spares : ∀ made ∈ moves, made.sparesClock = true) {progress last : Progress}
    (now : holds progress) (followed : progress.follow moves = .ok last) : holds last := by
  induction moves generalizing progress with
  | nil =>
    cases followed
    exact now
  | cons first moves ih =>
    rw [follow_cons, bind_eq_ok_iff] at followed
    obtain ⟨next, moved, rest⟩ := followed
    have spared : first.sparesClock = true := spares first List.mem_cons_self
    exact ih (fun made member ↦ spares made (List.mem_cons_of_mem first member))
      (stable.move spared now moved) rest

end Progress

/-! ### Schedules -/

/-- What is done from outside before each step of a run, by the number of steps before. -/
abbrev Schedule := Nat → List Intervention

namespace Schedule

/-- The schedule in which nothing is done. -/
def calm : Schedule := fun _ ↦ []

/-- The schedule of one outage, which begins before one step and ends before another. -/
def outage (first last : Nat) : Schedule := fun index ↦
  if index = first then [.setUnreachable true]
  else if index = last then [.setUnreachable false]
  else []

/-- The moves of a run under a schedule, up to a number of steps. -/
def moves (schedule : Schedule) (count : Nat) : List Move :=
  (List.range count).flatMap fun index ↦ (schedule index).map Move.outside ++ [Move.step]

/-- A schedule leaves the clock to the machine. -/
def SparesClock (schedule : Schedule) : Prop :=
  ∀ index, ∀ intervention ∈ schedule index, intervention.sparesClock = true

theorem moves_succ (schedule : Schedule) (count : Nat) :
    schedule.moves (count + 1) =
      schedule.moves count ++ ((schedule count).map Move.outside ++ [Move.step]) := by
  unfold moves
  rw [List.range_succ, List.flatMap_append, List.flatMap_singleton]

theorem moves_calm (count : Nat) : calm.moves count = List.replicate count .step := by
  induction count with
  | zero => rfl
  | succ count ih =>
    rw [moves_succ, ih, List.replicate_succ']
    rfl

theorem calm_sparesClock : calm.SparesClock := fun _ _ member ↦ absurd member List.not_mem_nil

theorem outage_sparesClock (first last : Nat) : (outage first last).SparesClock := by
  intro index intervention scheduled
  have only : ∃ unreachable, intervention = .setUnreachable unreachable := by
    unfold outage at scheduled
    by_cases begins : index = first
    · rw [if_pos begins] at scheduled
      exact ⟨true, List.mem_singleton.mp scheduled⟩
    · rw [if_neg begins] at scheduled
      by_cases ends : index = last
      · rw [if_pos ends] at scheduled
        exact ⟨false, List.mem_singleton.mp scheduled⟩
      · rw [if_neg ends] at scheduled
        exact absurd scheduled List.not_mem_nil
  obtain ⟨unreachable, rfl⟩ := only
  rfl

theorem SparesClock.moves {schedule : Schedule} (spares : schedule.SparesClock) (count : Nat) :
    ∀ made ∈ schedule.moves count, made.sparesClock = true := by
  intro made member
  obtain ⟨index, -, listed⟩ := List.mem_flatMap.mp member
  rcases List.mem_append.mp listed with outside | final
  · obtain ⟨intervention, scheduled, rfl⟩ := List.mem_map.mp outside
    exact spares index intervention scheduled
  · rw [List.mem_singleton.mp final]
    rfl

end Schedule

namespace Progress

/-- Interventions that leave the clock alone, one after the other, disturb the world. -/
theorem follow_outside (progress : Progress) {interventions : List Intervention}
    (spares : ∀ intervention ∈ interventions, intervention.sparesClock = true) :
    ∃ stream unreachable, progress.follow (interventions.map Move.outside) =
      .ok (progress.disturbed stream unreachable) := by
  induction interventions generalizing progress with
  | nil => exact ⟨progress.world.stream, progress.world.recorder.unreachable, rfl⟩
  | cons first interventions ih =>
    obtain ⟨stream, unreachable, moved⟩ :=
      progress.move_outside_of_sparesClock (spares first List.mem_cons_self)
    obtain ⟨laterStream, laterFlag, followed⟩ := ih (progress.disturbed stream unreachable)
      fun intervention member ↦ spares intervention (List.mem_cons_of_mem first member)
    refine ⟨laterStream, laterFlag, ?_⟩
    rw [List.map_cons, follow_cons, moved]
    exact followed

/-- Under a schedule that leaves the clock alone, one step more is a disturbance and a step. -/
theorem follow_moves_succ {schedule : Schedule} (spares : schedule.SparesClock)
    {progress next : Progress} {count : Nat} (followed : progress.follow (schedule.moves count) =
      .ok next) :
    ∃ stream unreachable, progress.follow (schedule.moves (count + 1)) =
      (next.disturbed stream unreachable).move .step := by
  obtain ⟨stream, unreachable, disturbed⟩ := next.follow_outside (spares count)
  refine ⟨stream, unreachable, ?_⟩
  rw [Schedule.moves_succ, follow_append, followed]
  show next.follow _ = _
  rw [follow_append, disturbed]
  show (next.disturbed stream unreachable).follow [.step] = _
  rw [follow_cons]
  cases (next.disturbed stream unreachable).move .step <;> rfl

/-- A run of one step more under such a schedule has come to its last step through a disturbance. -/
theorem exists_of_follow_moves_succ {schedule : Schedule} (spares : schedule.SparesClock)
    {progress last : Progress} {count : Nat}
    (followed : progress.follow (schedule.moves (count + 1)) = .ok last) :
    ∃ next stream unreachable, progress.follow (schedule.moves count) = .ok next ∧
      (next.disturbed stream unreachable).move .step = .ok last := by
  have split := followed
  rw [Schedule.moves_succ, follow_append, bind_eq_ok_iff] at split
  obtain ⟨next, early, -⟩ := split
  obtain ⟨stream, unreachable, moved⟩ := follow_moves_succ spares early
  exact ⟨next, stream, unreachable, early, moved.symm.trans followed⟩

/-- In a calm run one step more is a step. -/
theorem follow_calm_succ {progress last : Progress} {count : Nat} :
    progress.follow (Schedule.calm.moves (count + 1)) = .ok last ↔
      ∃ next, progress.follow (Schedule.calm.moves count) = .ok next ∧
        next.move .step = .ok last := by
  rw [Schedule.moves_calm, Schedule.moves_calm, List.replicate_succ', follow_append,
    bind_eq_ok_iff]
  refine exists_congr fun next ↦ and_congr_right fun _ ↦ ?_
  rw [follow_cons, bind_eq_ok_iff]
  constructor
  · rintro ⟨only, moved, final⟩
    cases final
    exact moved
  · exact fun moved ↦ ⟨last, moved, rfl⟩

/-! ### Fresh machines -/

/-- The start of a run of a machine that has just been made in its world. -/
def fresh (config : Instance) (role : Role) (tap : Tap) (pid : UInt32) (world : World) : Progress :=
  start (Machine.create config role tap pid world.clock) world

/-- A machine that falls silent, with an interval of three seconds and an outage, can make two
hundred and forty steps. -/
theorem exists_silent_run : ∃ last,
    (fresh ⟨2, "idler", 0, 3, 12345⟩ .noHeartbeat ⟨12345, 0⟩ 1007 (World.ofSeed 7)).follow
      ((Schedule.outage 3 8).moves 240) = .ok last :=
  exists_of_isOk (by decide +kernel)

end Progress

end Heartbeat
