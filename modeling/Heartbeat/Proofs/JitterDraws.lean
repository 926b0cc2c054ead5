import Heartbeat.Proofs.RejectionSampling
import Heartbeat.Proofs.SendDiscipline

/-!
# The waits that a run draws

After each attempt to send a machine draws its next wait, between a third and a half of its
interval, and draws nothing else. A step that makes an attempt therefore makes one draw and any
other step none (`Transition.drawn`); over a run in which nobody else draws, the waits are the
successive draws from the keystream that the run began with (`Progress.waits_eq_draws`), through
stalls, outages and a clock that is set.

`Progress.waits_drawn_from_interval` joins this to what one draw is: the lower bound for a range of
at most one value, with nothing taken, and otherwise the outcome of the first accepted value.
-/

set_option autoImplicit false
set_option relaxedAutoImplicit false

namespace Heartbeat

open Machine (SameMake Transition)

/-! ### Successive draws -/

namespace Keystream

/-- A number of draws from one range: the values in order, and the keystream after them. -/
def draws (low high : UInt64) : ℕ → Keystream → List UInt64 × Keystream
  | 0, stream => ([], stream)
  | count + 1, stream =>
    let before := draws low high count stream
    let drawn := before.2.draw low high
    (before.1 ++ [drawn.1], drawn.2)

variable {low high : UInt64} {stream : Keystream}

/-- A range of at most one value gives its lower bound and takes nothing. -/
theorem draw_of_le (narrow : high ≤ low) : stream.draw low high = (low, stream) :=
  if_pos narrow

/-- A draw that ends is the outcome of the first accepted value. -/
theorem draw_of_uniform? (bounded : low < high) {drawn : UInt64 × Keystream}
    (ended : stream.uniform? low high = some drawn) :
    stream.draw low high = drawn ∧ (low ≤ drawn.1 ∧ drawn.1 ≤ high) ∧
      ∃ skipped, FirstAccepted (spread low high) stream skipped ∧
        drawn.1.toNat = low.toNat + (stream.peek skipped).toNat * spread low high / 2 ^ 64 ∧
        drawn.2 = stream.drop (skipped + 1) := by
  obtain ⟨skipped, first⟩ := exists_firstAccepted_iff.mpr
    ((isSome_uniform?_iff bounded).mp (Option.isSome_of_eq_some ended))
  obtain ⟨own, same, outcome, rest⟩ := uniform?_of_firstAccepted bounded first
  obtain rfl : own = drawn := Option.some_inj.mp (same.symm.trans ended)
  refine ⟨?_, ⟨?_, ?_⟩, skipped, first, outcome, rest⟩
  · unfold draw
    rw [if_neg (by rwa [UInt64.not_le]), ended, Option.getD_some]
  · rw [UInt64.le_iff_toNat_le, outcome]
    exact Nat.le_add_right _ _
  · rw [UInt64.le_iff_toNat_le, outcome]
    exact add_outcome_le bounded _

end Keystream

/-! ### The draw of a step -/

/-- The wait that was drawn after an attempt. -/
def Event.nextWait? : Event → Option ℕ
  | .heartbeatSent _ _ nextWait | .sendFailed _ nextWait => some nextWait
  | .initialDelay _ | .idle | .ceilingReached _ _ | .stalled _ | .stallFinished | .crashed => none

/-- The waits of a run in order. -/
def Progress.waits (progress : Progress) : List ℕ :=
  progress.events.toList.filterMap fun stamped ↦ stamped.event.nextWait?

namespace Machine

variable {machine : Machine} {world : World} {outcome : Outcome} {low high : UInt64}

theorem Attempt.nextWait?_event (made : Attempt) (payload : Payload) (waitTime : ℕ) :
    (made.event payload waitTime).nextWait? = some made.nextWait := by
  unfold Attempt.event
  cases made.result <;> rfl

/-- A step without an attempt has no wait to tell of. -/
theorem Transition.nextWait?_eq_none (transition : Transition machine world outcome)
    (quiet : outcome.event.letter ≠ .attempt) : outcome.event.nextWait? = none := by
  cases transition with
  | beat => exact absurd (Attempt.letter_event _ _ _) quiet
  | delay | idle | crash | fallSilent | goOn | endStall | keepSilent | rest => rfl

/-- A step draws its wait once if it makes an attempt, and nothing otherwise. -/
theorem Transition.drawn (transition : Transition machine world outcome)
    (range : machine.activeJitter = some (low, high)) :
    (outcome.event.letter = .attempt →
      outcome.event.nextWait? = some (world.stream.draw low high).1.toNat ∧
        outcome.world.stream = (world.stream.draw low high).2) ∧
    (outcome.event.letter ≠ .attempt →
      outcome.event.nextWait? = none ∧ outcome.world.stream = world.stream) := by
  constructor
  · intro attempt
    cases transition with
    | @beat own other later phase enabled wait =>
      obtain ⟨rfl, rfl⟩ := Prod.mk.inj (Option.some_inj.mp (range.symm.trans enabled))
      obtain ⟨clock, -, rfl⟩ := World.advance_eq_ok_iff.mp wait
      exact ⟨Attempt.nextWait?_event _ _ _, rfl⟩
    | delay | idle | crash | fallSilent | goOn | endStall | keepSilent | rest =>
      simp [Event.letter] at attempt
  · intro quiet
    refine ⟨transition.nextWait?_eq_none quiet, ?_⟩
    rw [transition.world_eq quiet]

end Machine

namespace Progress

/-! ### The draws of a run -/

theorem waits_eq_nil {progress : Progress} (blank : progress.events = #[]) :
    progress.waits = [] := by
  unfold waits
  rw [blank]
  rfl

theorem waits_after (events : Array Stamped) (notices : Array Notice)
    (outcome : Machine.Outcome) :
    (after events notices outcome).waits =
      (events.toList.filterMap fun stamped ↦ stamped.event.nextWait?) ++
        outcome.event.nextWait?.toList := by
  unfold waits
  rw [after, Array.toList_push, List.filterMap_append]
  cases found : outcome.event.nextWait? <;> simp [found]

/-- A machine has drawn its waits from one range: they are the successive draws from the keystream
at the start, and the keystream is where they have left it. -/
structure Draws (made : Machine) (low high : UInt64) (first : Keystream) (progress : Progress) :
    Prop where
  same : SameMake made progress.machine
  waits : progress.waits =
    (first.draws low high progress.waits.length).1.map UInt64.toNat
  stream : progress.world.stream = (first.draws low high progress.waits.length).2

/-- A step draws at most once, and the draw is its wait. -/
theorem Draws.step {made : Machine} {low high : UInt64} {first : Keystream} {progress : Progress}
    {outcome : Machine.Outcome} (range : made.activeJitter = some (low, high))
    (draws : Draws made low high first progress)
    (transition : Transition progress.machine progress.world outcome) :
    Draws made low high first (after progress.events progress.notices outcome) := by
  have same := draws.same.trans transition.sameMake
  obtain ⟨attempted, quiet⟩ := transition.drawn (draws.same.activeJitter_eq.trans range)
  have added := waits_after progress.events progress.notices outcome
  change _ = progress.waits ++ _ at added
  by_cases attempt : outcome.event.letter = .attempt
  · obtain ⟨wait, stream⟩ := attempted attempt
    rw [wait, Option.toList_some, draws.stream] at added
    have length : (after progress.events progress.notices outcome).waits.length =
        progress.waits.length + 1 := by
      rw [added, List.length_append, List.length_singleton]
    refine ⟨same, ?_, ?_⟩
    · rw [length, added, Keystream.draws, List.map_append, List.map_singleton, ← draws.waits]
    · rw [length, Keystream.draws, ← draws.stream]
      exact stream
  · obtain ⟨none, stream⟩ := quiet attempt
    rw [none, Option.toList_none, List.append_nil] at added
    refine ⟨same, ?_, ?_⟩
    · rw [added]
      exact draws.waits
    · rw [added]
      exact stream.trans draws.stream

/-- If nobody else draws, the waits of a run are the successive draws from its keystream. -/
theorem waits_eq_draws {low high : UInt64} {moves : List Move} {first last : Progress}
    (blank : first.events = #[]) (range : first.machine.activeJitter = some (low, high))
    (undrawn : ∀ low high, Move.outside (.draw low high) ∉ moves)
    (followed : first.follow moves = .ok last) :
    Draws first.machine low high first.world.stream last := by
  have none := waits_eq_nil blank
  refine holds_of_follow (Draws first.machine low high first.world.stream)
    (fun made member progress next draws moved ↦ ?_) ⟨SameMake.refl _, ?_, ?_⟩ followed
  · cases made with
    | step =>
      obtain ⟨outcome, transition, rfl⟩ := move_step_eq_ok_iff.mp moved
      exact draws.step range transition
    | outside intervention =>
      obtain ⟨world, undergone, rfl⟩ := exists_world_of_move_outside moved
      refine ⟨draws.same, draws.waits, (World.stream_of_undergo ?_ undergone).trans draws.stream⟩
      rintro low high rfl
      exact undrawn low high member
  · rw [none]
    rfl
  · rw [none]
    rfl

/-- Every wait of a run lies in the range of the interval, whatever others do to its world. -/
theorem waits_mem_range {interval : Int64} {low high : UInt64} {moves : List Move}
    {first last : Progress} (blank : first.events = #[])
    (range : first.machine.activeJitter = jitterBounds interval)
    (bounds : jitterBounds interval = some (low, high))
    (followed : first.follow moves = .ok last) :
    ∀ wait ∈ last.waits, interval.toInt.toNat / 3 ≤ wait ∧ wait ≤ interval.toInt.toNat / 2 := by
  obtain ⟨-, third, half⟩ := toNat_of_jitterBounds bounds
  have kept : Kept fun later ↦ SameMake first.machine later.machine ∧ ∀ wait ∈ later.waits,
      interval.toInt.toNat / 3 ≤ wait ∧ wait ≤ interval.toInt.toNat / 2 := by
    rintro progress outcome ⟨same, within⟩ transition
    refine ⟨same.trans transition.sameMake, fun wait member ↦ ?_⟩
    rw [waits_after] at member
    rcases List.mem_append.mp member with old | new
    · exact within wait old
    · obtain ⟨attempted, quiet⟩ := transition.drawn
        (same.activeJitter_eq.trans (range.trans bounds))
      by_cases attempt : outcome.event.letter = .attempt
      · rw [(attempted attempt).1, Option.toList_some, List.mem_singleton] at new
        rw [new, ← third, ← half]
        exact Keystream.draw_mem_range (by omega) _
      · rw [(quiet attempt).1] at new
        cases new
  have none := waits_eq_nil blank
  refine (kept.follow (fun _ _ held ↦ held) ⟨SameMake.refl _, ?_⟩ followed).2
  rw [none]
  exact nofun

/-- A draw gives the lower bound and takes nothing if the range has at most one value. Otherwise it
takes values up to the first accepted one and ends if there is one; its outcome is a sum of numbers
that do not wrap, between the bounds, also for the range of all words.

The waits of a machine are such draws between a third and a half of its interval: a step that makes
an attempt makes one draw and another step none, and if nobody else draws, the waits of the whole
run are the successive draws from the keystream that it began with. -/
theorem waits_drawn_from_interval :
    (∀ (low high : UInt64) (stream : Keystream),
      (high ≤ low → stream.draw low high = (low, stream)) ∧
      (low < high →
        (∀ drawn, stream.uniform? low high = some drawn →
          stream.draw low high = drawn ∧ (low ≤ drawn.1 ∧ drawn.1 ≤ high) ∧
          ∃ skipped, Keystream.FirstAccepted (Keystream.spread low high) stream skipped ∧
            drawn.1.toNat = low.toNat +
              (stream.peek skipped).toNat * Keystream.spread low high / 2 ^ 64 ∧
            drawn.2 = stream.drop (skipped + 1)) ∧
        ((stream.uniform? low high).isSome = true ↔
          ∃ skipped, Keystream.Accepts (Keystream.spread low high) (stream.peek skipped)))) ∧
    ∀ (config : Instance) (role : Role) (tap : Tap) (pid : UInt32) (world : World)
      (moves : List Move) (last : Progress), 0 < config.interval.toInt →
      (fresh config role tap pid world).follow moves = .ok last →
      (∀ stamped ∈ last.events, ∀ wait, stamped.event.nextWait? = some wait →
        config.interval.toInt.toNat / 3 ≤ wait ∧ wait ≤ config.interval.toInt.toNat / 2) ∧
      ∃ low high : UInt64, low.toNat = config.interval.toInt.toNat / 3 ∧
        high.toNat = config.interval.toInt.toNat / 2 ∧
        (∀ outcome, last.machine.step last.world = .ok outcome →
          (outcome.event.letter = .attempt →
            outcome.event.nextWait? = some (last.world.stream.draw low high).1.toNat ∧
              outcome.world.stream = (last.world.stream.draw low high).2) ∧
          (outcome.event.letter ≠ .attempt →
            outcome.event.nextWait? = none ∧ outcome.world.stream = last.world.stream)) ∧
        ((∀ low high, Move.outside (.draw low high) ∉ moves) →
          last.waits = (world.stream.draws low high last.waits.length).1.map UInt64.toNat ∧
            last.world.stream = (world.stream.draws low high last.waits.length).2) := by
  refine ⟨fun low high stream ↦ ⟨Keystream.draw_of_le, fun bounded ↦
    ⟨fun _ ↦ Keystream.draw_of_uniform? bounded, Keystream.isSome_uniform?_iff bounded⟩⟩, ?_⟩
  intro config role tap pid world moves last positive followed
  have range : (fresh config role tap pid world).machine.activeJitter =
      jitterBounds config.interval := Machine.activeJitter_create config role tap pid world.clock
  obtain ⟨⟨low, high⟩, bounds⟩ : ∃ bounds, jitterBounds config.interval = some bounds := by
    rw [← Option.ne_none_iff_exists', Ne, Machine.jitterBounds_eq_none_iff, not_not]
    exact positive
  obtain ⟨-, third, half⟩ := toNat_of_jitterBounds bounds
  have same := (Machine.lasting_sameMake _).follow (SameMake.refl _) followed
  have within := waits_mem_range rfl range bounds followed
  refine ⟨fun stamped member wait waited ↦ within wait ?_, low, high, third, half,
    fun outcome stepped ↦ ?_, fun undrawn ↦ ?_⟩
  · exact List.mem_filterMap.mpr ⟨stamped, Array.mem_toList_iff.mpr member, waited⟩
  · exact (Machine.transition_of_step stepped).drawn
      (same.activeJitter_eq.trans (range.trans bounds))
  · have draws := waits_eq_draws rfl (range.trans bounds) undrawn followed
    exact ⟨draws.waits, draws.stream⟩

/-- A machine that falls silent, every second attempt of which is lost: three draws before its
stall, which take four values because one is not accepted, and none in the stall. -/
theorem waits_drawn_before_stall :
    (Keystream.ofSeed 7).draw 5 3 = (5, Keystream.ofSeed 7) ∧
    ((Keystream.ofSeed 7).uniform? 0 18446744073709551615).isSome = true ∧
    ∃ last, (fresh ⟨1, "worker", 2, 30, 12345⟩ .noHeartbeat ⟨12345, 2⟩ 1007
        (World.ofSeed 7)).follow [.step, .step, .step, .outside (.advance (Span.ofSeconds 200)),
          .step, .step, .step, .outside (.setTime Clock.start), .step] = .ok last ∧
      last.machine.phase = .stalling 46 ∧ last.waits = [11, 14, 14] ∧
      (∀ stamped ∈ last.events, ∀ wait, stamped.event.nextWait? = some wait →
        10 ≤ wait ∧ wait ≤ 15) ∧
      last.world.stream = ((Keystream.ofSeed 7).draws 10 15 3).2 ∧
      last.world.stream.taken = 4 := by
  obtain ⟨draws, runs⟩ := waits_drawn_from_interval
  have shown : ((fresh ⟨1, "worker", 2, 30, 12345⟩ .noHeartbeat ⟨12345, 2⟩ 1007
      (World.ofSeed 7)).follow [.step, .step, .step, .outside (.advance (Span.ofSeconds 200)),
        .step, .step, .step, .outside (.setTime Clock.start), .step]).map
      (fun last ↦ (last.machine.phase, last.waits, last.world.stream.taken)) =
        .ok (.stalling 46, [11, 14, 14], 4) := by
    decide +kernel
  obtain ⟨last, followed, found⟩ := map_eq_ok_iff.mp shown
  obtain ⟨phase, waits, taken⟩ : last.machine.phase = .stalling 46 ∧ last.waits = [11, 14, 14] ∧
      last.world.stream.taken = 4 := by
    simpa only [Prod.mk.injEq] using found
  obtain ⟨within, low, high, third, half, -, drawn⟩ := runs ⟨1, "worker", 2, 30, 12345⟩
    .noHeartbeat ⟨12345, 2⟩ 1007 (World.ofSeed 7) _ last (by decide) followed
  obtain rfl : low = 10 := UInt64.toNat_inj.mp third
  obtain rfl : high = 15 := UInt64.toNat_inj.mp half
  have stream := (drawn (by simp)).2
  rw [waits] at stream
  refine ⟨(draws 5 3 _).1 (by decide), ?_, last, followed, phase, waits, within, stream, taken⟩
  refine ((draws 0 18446744073709551615 _).2 (by decide)).2.mpr ⟨0, ?_⟩
  exact Keystream.accepts_whole _

end Progress

end Heartbeat
