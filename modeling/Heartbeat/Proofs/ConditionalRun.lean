import Heartbeat.Proofs.UndisturbedRun

/-!
# Runs with conditions for their end

A run goes on while its world lets it and ends with an event that ends it. What every step keeps is
kept by such a run (`Progress.Kept.run`), and `Progress.run_ends` lists the three ways in which it
comes to its end. It has a result as long as its machine can step with the steps that are left
(`Progress.exists_run`), and if its world stops it in time, the bound on its steps plays no part
(`Progress.run_add_eq`).

A run `Passes` a progress if it comes to it and goes on from there with the steps that it has left.
So a long run can be taken apart where its machine changes phase: a calm run is passed step by step
(`Progress.passes_of_follow`), and what comes later is a run of its own.
-/

set_option autoImplicit false
set_option relaxedAutoImplicit false

namespace Heartbeat.Progress

open Machine (Transition)

variable {goesOn : World → Bool} {ends : Event → Bool} {outcome : Machine.Outcome}
  {first later last : Progress} {count fuel : Nat}

/-! ### One step and the end of a run -/

/-- A run that goes on makes a step, and an event that ends it makes it the last one. -/
theorem run_succ (going : goesOn first.world = true)
    (transition : Transition first.machine first.world outcome) (fuel : Nat) :
    run goesOn ends (fuel + 1) first =
      if ends outcome.event then .ok (after first.events first.notices outcome)
      else run goesOn ends fuel (after first.events first.notices outcome) := by
  obtain ⟨machine, world, events, notices⟩ := first
  rw [run, if_pos going, transition.step_eq]

/-- A run that the world stops is at its end. -/
theorem run_of_stopped (stopped : goesOn first.world = false) (fuel : Nat) :
    run goesOn ends fuel first = .ok first := by
  obtain ⟨machine, world, events, notices⟩ := first
  cases fuel with
  | zero => rfl
  | succ fuel => rw [run, if_neg (by simp [stopped])]

/-- A step of a run that has a result. -/
theorem exists_of_run_succ (ran : run goesOn ends (fuel + 1) first = .ok last)
    (going : goesOn first.world = true) :
    ∃ outcome, Transition first.machine first.world outcome ∧
      ((ends outcome.event = true ∧ last = after first.events first.notices outcome) ∨
        (ends outcome.event = false ∧
          run goesOn ends fuel (after first.events first.notices outcome) = .ok last)) := by
  cases stepped : first.machine.step first.world with
  | error fault =>
    obtain ⟨machine, world, events, notices⟩ := first
    rw [run, if_pos going, stepped] at ran
    cases ran
  | ok outcome =>
    have transition := Machine.transition_of_step stepped
    rw [run_succ going transition] at ran
    refine ⟨outcome, transition, ?_⟩
    cases ended : ends outcome.event with
    | true =>
      rw [ended, if_pos rfl] at ran
      cases ran
      exact .inl ⟨rfl, rfl⟩
    | false =>
      rw [ended] at ran
      exact .inr ⟨rfl, ran⟩

/-- What every step keeps is kept by a run. -/
theorem Kept.run {holds : Progress → Prop} (kept : Kept holds) (now : holds first)
    (ran : run goesOn ends fuel first = .ok last) : holds last := by
  induction fuel generalizing first with
  | zero =>
    cases ran
    exact now
  | succ fuel ih =>
    cases going : goesOn first.world with
    | false =>
      rw [run_of_stopped going] at ran
      cases ran
      exact now
    | true =>
      obtain ⟨outcome, transition, ⟨-, rfl⟩ | ⟨-, rest⟩⟩ := exists_of_run_succ ran going
      · exact kept first outcome now transition
      · exact ih (kept first outcome now transition) rest

/-- A run ends because the world stops it, with an event that ends it as its last one, or when it
has made all its steps. -/
theorem run_ends (ran : run goesOn ends fuel first = .ok last) :
    goesOn last.world = false ∨
      (∃ stamped, last.events.back? = some stamped ∧ ends stamped.event = true) ∨
        last.events.size = first.events.size + fuel := by
  induction fuel generalizing first with
  | zero =>
    cases ran
    exact .inr (.inr rfl)
  | succ fuel ih =>
    cases going : goesOn first.world with
    | false =>
      rw [run_of_stopped going] at ran
      cases ran
      exact .inl going
    | true =>
      obtain ⟨outcome, transition, ⟨ended, rfl⟩ | ⟨-, rest⟩⟩ := exists_of_run_succ ran going
      · exact .inr (.inl ⟨⟨outcome.world.clock, outcome.event⟩, Array.back?_push, ended⟩)
      · rcases ih rest with stopped | ended | made
        · exact .inl stopped
        · exact .inr (.inl ended)
        · refine .inr (.inr ?_)
          rw [made]
          simp only [after, Array.size_push]
          omega

/-- A run makes no more steps than it has. -/
theorem size_events_le_of_run (ran : run goesOn ends fuel first = .ok last) :
    last.events.size ≤ first.events.size + fuel := by
  induction fuel generalizing first with
  | zero =>
    cases ran
    exact Nat.le_refl _
  | succ fuel ih =>
    have size (outcome : Machine.Outcome) : (after first.events first.notices outcome).events.size =
        first.events.size + 1 := Array.size_push _
    cases going : goesOn first.world with
    | false =>
      rw [run_of_stopped going] at ran
      cases ran
      exact Nat.le_add_right _ _
    | true =>
      obtain ⟨outcome, transition, ⟨-, rfl⟩ | ⟨-, rest⟩⟩ := exists_of_run_succ ran going
      · rw [size]
        omega
      · have later := ih rest
        rw [size] at later
        omega

/-- A run has a result if its machine can step as often as steps are left. -/
theorem exists_run {able : Nat → Progress → Prop}
    (steps : ∀ (fuel : Nat) (progress : Progress), able (fuel + 1) progress →
      ∃ outcome, Transition progress.machine progress.world outcome ∧
        able fuel (after progress.events progress.notices outcome)) (now : able fuel first) :
    ∃ last, run goesOn ends fuel first = .ok last := by
  induction fuel generalizing first with
  | zero => exact ⟨first, rfl⟩
  | succ fuel ih =>
    cases going : goesOn first.world with
    | false => exact ⟨first, run_of_stopped going _⟩
    | true =>
      obtain ⟨outcome, transition, still⟩ := steps fuel first now
      rw [run_succ going transition]
      cases ends outcome.event with
      | true => exact ⟨_, rfl⟩
      | false => exact ih still

/-- More steps than a run can use change nothing. `holds` must say of every progress how many steps
are left, each step that does not end the run must use one up, and when none is left, the world must
stop the run. -/
theorem run_add_eq {holds : Nat → Progress → Prop}
    (uses : ∀ left progress outcome, holds (left + 1) progress → goesOn progress.world = true →
      Transition progress.machine progress.world outcome → ends outcome.event = false →
        holds left (after progress.events progress.notices outcome))
    (stops : ∀ progress, holds 0 progress → goesOn progress.world = false) {left : Nat}
    (now : holds left first) (extra : Nat) :
    run goesOn ends (left + extra) first = run goesOn ends left first := by
  induction left generalizing first with
  | zero => rw [run_of_stopped (stops first now), run_of_stopped (stops first now)]
  | succ left ih =>
    cases going : goesOn first.world with
    | false => rw [run_of_stopped going, run_of_stopped going]
    | true =>
      rw [Nat.add_right_comm]
      cases stepped : first.machine.step first.world with
      | error fault =>
        obtain ⟨machine, world, events, notices⟩ := first
        rw [run, run, if_pos going, if_pos going, stepped]
      | ok outcome =>
        have transition := Machine.transition_of_step stepped
        rw [run_succ going transition, run_succ going transition]
        cases ended : ends outcome.event with
        | true => rfl
        | false => exact ih (uses left first outcome now going transition ended)

/-! ### Passing a progress -/

/-- A run from the first progress comes to the later one after a number of steps, and goes on from
there with the steps that it has left. -/
def Passes (goesOn : World → Bool) (ends : Event → Bool) (count : Nat) (first later : Progress) :
    Prop :=
  ∀ fuel, run goesOn ends (count + fuel) first = run goesOn ends fuel later

theorem Passes.refl (progress : Progress) : Passes goesOn ends 0 progress progress := by
  intro fuel
  rw [Nat.zero_add]

theorem Passes.step (passes : Passes goesOn ends count first later)
    (going : goesOn later.world = true)
    (transition : Transition later.machine later.world outcome)
    (unfinished : ends outcome.event = false) :
    Passes goesOn ends (count + 1) first (after later.events later.notices outcome) := by
  intro fuel
  rw [Nat.add_right_comm, Nat.add_assoc, passes, run_succ going transition, unfinished]
  rfl

/-- What every step keeps holds of a progress that a run passes. -/
theorem Passes.holds {holds : Progress → Prop} (passes : Passes goesOn ends count first later)
    (kept : Kept holds) (now : holds first) : holds later :=
  kept.run now (passes 0)

/-- A run that passes a progress ends with the step that ends it there. -/
theorem Passes.run_eq (passes : Passes goesOn ends count first later)
    (going : goesOn later.world = true)
    (transition : Transition later.machine later.world outcome)
    (finished : ends outcome.event = true) {bound : Nat} (enough : count + 1 ≤ bound) :
    run goesOn ends bound first = .ok (after later.events later.notices outcome) := by
  obtain ⟨fuel, rfl⟩ := Nat.exists_eq_add_of_le enough
  rw [Nat.add_assoc, passes, Nat.add_comm 1, run_succ going transition, if_pos finished]

/-- A calm run is passed step by step, if the world lets it go on at its end and no event up to
there ends it. Going on may only depend on the time and must not begin late. -/
theorem passes_of_follow (early : ∀ {world later : World},
      world.clock.now.nanos ≤ later.clock.now.nanos → goesOn later = true → goesOn world = true)
    (followed : first.follow (Schedule.calm.moves count) = .ok later)
    (going : goesOn later.world = true)
    (unfinished : ∀ stamped ∈ later.events, ends stamped.event = false) :
    Passes goesOn ends count first later := by
  induction count generalizing later with
  | zero =>
    cases followed
    exact Passes.refl first
  | succ count ih =>
    obtain ⟨next, reached, moved⟩ := follow_calm_succ.mp followed
    obtain ⟨outcome, transition, rfl⟩ := move_step_eq_ok_iff.mp moved
    have before : goesOn next.world = true := early transition.now_le going
    have quiet : ∀ stamped ∈ next.events, ends stamped.event = false :=
      fun stamped member ↦ unfinished stamped (Array.mem_push_of_mem _ member)
    exact (ih reached before quiet).step before transition
      (unfinished ⟨outcome.world.clock, outcome.event⟩ Array.mem_push_self)

end Heartbeat.Progress
