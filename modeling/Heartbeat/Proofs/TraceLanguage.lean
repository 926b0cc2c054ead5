import Heartbeat.Proofs.UndisturbedRun
import Mathlib.Data.Stream.Init

/-!
# The trace language of a role

A `Letter` is an event without its data. Each role has a language of infinite words over the
letters (`Role.language`): the initial delay, one or more rounds of the loop, and then for ever
what the role does at the ceiling. A machine that crashes may also stay in the loop for ever.

`Standing` relates the phase of a machine and the time since the start of its loop to the letters
so far. Every undisturbed step keeps it (`Standing.step`): once the observation window has passed it
stays passed, because the start of the loop does not change and the clock is never set back, so each
later round of the loop ends at the ceiling. Every standing is the beginning of a word
(`Standing.exists_word`), and so is every run (`Progress.letters_eq_take_word`).
-/

set_option autoImplicit false
set_option relaxedAutoImplicit false

namespace Heartbeat

open Machine (SameMake Transition)
open scoped Stream'

/-! ### Letters -/

/-- What happened in a step, without its data. A round of the loop is an attempt or idle. -/
inductive Letter
  | initialDelay
  | attempt
  | idle
  | ceilingReached
  | stalled (remaining : ℕ)
  | stallFinished
  | crashed
deriving DecidableEq

/-- The letter of an event. -/
def Event.letter : Event → Letter
  | .initialDelay _ => .initialDelay
  | .heartbeatSent _ _ _ | .sendFailed _ _ => .attempt
  | .idle => .idle
  | .ceilingReached _ _ => .ceilingReached
  | .stalled remaining => .stalled remaining
  | .stallFinished => .stallFinished
  | .crashed => .crashed

/-- The letters of the events so far. -/
def Progress.letters (progress : Progress) : List Letter :=
  progress.events.toList.map fun stamped ↦ stamped.event.letter

theorem Progress.length_letters (progress : Progress) :
    progress.letters.length = progress.events.size := by
  rw [letters, List.length_map, Array.length_toList]

/-- The letter of a round of the loop: an attempt for a positive interval, and idle otherwise. -/
def roundLetter (interval : Int64) : Letter :=
  if 0 < interval.toInt then .attempt else .idle

/-! ### Words -/

/-- The steps of a stall, counted down to zero. -/
def countdown : ℕ → List Letter
  | 0 => []
  | remaining + 1 => .stalled remaining :: countdown remaining

/-- The initial delay and a number of rounds of the loop. -/
def opening (round : Letter) (count : ℕ) : List Letter :=
  .initialDelay :: List.replicate count round

/-- What a role does at the ceiling, up to the next ceiling. -/
def Role.cycle (round : Letter) (repeats : ℕ) : Role → List Letter
  | .crash => [.crashed]
  | .noHeartbeat => .ceilingReached :: countdown repeats ++ [.stallFinished, round]
  | .unrecognized _ => [.ceilingReached, round]

theorem Role.cycle_ne_nil (round : Letter) (repeats : ℕ) (role : Role) :
    role.cycle round repeats ≠ [] := by
  cases role <;> simp [cycle]

/-- The words of a role: an opening with at least one round, and the cycle of the role for ever. A
machine that crashes may also stay in the loop for ever. -/
def Role.language (round : Letter) (repeats : ℕ) (role : Role) : Set (Stream' Letter) :=
  {word | (∃ count, 0 < count ∧ word = opening round count ++ₛ
      Stream'.cycle (role.cycle round repeats) (role.cycle_ne_nil round repeats)) ∨
    (role = .crash ∧ word = opening round 0 ++ₛ Stream'.const round)}

/-- An opening and a number of complete cycles. -/
def Role.turns (round : Letter) (repeats : ℕ) (role : Role) (count rounds : ℕ) : List Letter :=
  opening round count ++ (List.replicate rounds (role.cycle round repeats)).flatten

section Words

variable (round : Letter) (repeats : ℕ) (role : Role)

theorem opening_succ (count : ℕ) : opening round (count + 1) = opening round count ++ [round] := by
  unfold opening
  rw [List.replicate_succ', List.cons_append]

theorem Role.turns_zero (count : ℕ) : role.turns round repeats count 0 = opening round count := by
  simp [turns]

theorem Role.turns_succ (count rounds : ℕ) :
    role.turns round repeats count (rounds + 1) =
      role.turns round repeats count rounds ++ role.cycle round repeats := by
  unfold turns
  rw [List.replicate_succ', List.flatten_append, List.flatten_singleton, List.append_assoc]

/-- After complete cycles the same cycle goes on. -/
theorem Role.turns_append_cycle (count rounds : ℕ) :
    role.turns round repeats count rounds ++ₛ
        Stream'.cycle (role.cycle round repeats) (role.cycle_ne_nil round repeats) =
      opening round count ++ₛ
        Stream'.cycle (role.cycle round repeats) (role.cycle_ne_nil round repeats) := by
  induction rounds with
  | zero => rw [turns_zero]
  | succ rounds ih => rw [turns_succ, Stream'.append_append_stream, ← Stream'.cycle_eq, ih]

end Words

/-- Letters that complete cycles go on with are the beginning of a word. -/
theorem Role.exists_word_of_append_eq {round : Letter} {repeats : ℕ} {role : Role} {count : ℕ}
    {letters : List Letter} (rounds : ℕ) (rest : List Letter) (positive : 0 < count)
    (completed : letters ++ rest = role.turns round repeats count rounds) :
    ∃ word ∈ role.language round repeats, letters = word.take letters.length := by
  refine ⟨_, Or.inl ⟨count, positive, rfl⟩, ?_⟩
  rw [← Role.turns_append_cycle round repeats role count rounds, ← completed,
    Stream'.append_append_stream, Stream'.take_append_of_le_length _ _ _ le_rfl, List.take_length]

/-! ### Where a machine stands -/

/-- The letters so far, given the phase of a machine and the time since the start of its loop. The
machine as it was made gives the role, the times and the letter of a round. -/
inductive Standing (made : Machine) (round : Letter) : Phase → Span → List Letter → Prop
  | fresh {since : Span} : Standing made round .initialDelay since []
  | observing {since : Span} (count : ℕ) :
      Standing made round .looping since (opening round count)
  | turning {since : Span} {count : ℕ} (rounds : ℕ) (positive : 0 < count)
      (past : made.timing.maxRuntime ≤ since) :
      Standing made round .ceiling since
        (made.role.turns round made.timing.stall.repeats count rounds)
  | silent {since : Span} {count remaining : ℕ} {spent : List Letter} (rounds : ℕ)
      (positive : 0 < count) (past : made.timing.maxRuntime ≤ since)
      (role : made.role = .noHeartbeat)
      (counted : spent ++ countdown remaining = countdown made.timing.stall.repeats) :
      Standing made round (.stalling remaining) since
        (made.role.turns round made.timing.stall.repeats count rounds ++ .ceilingReached :: spent)
  | resuming {since : Span} {count : ℕ} {part : List Letter} (rounds : ℕ) (positive : 0 < count)
      (past : made.timing.maxRuntime ≤ since)
      (last : part ++ [round] = made.role.cycle round made.timing.stall.repeats) :
      Standing made round .looping since
        (made.role.turns round made.timing.stall.repeats count rounds ++ part)
  | ended {since : Span} {count : ℕ} (rounds : ℕ) (positive : 0 < count)
      (role : made.role = .crash) :
      Standing made round .crashed since
        (made.role.turns round made.timing.stall.repeats count rounds)

namespace Standing

variable {made : Machine} {round : Letter} {phase : Phase} {since : Span} {letters : List Letter}

/-- A round of the loop that ends at the ceiling exactly when the window has passed. -/
theorem loopRound {later : Span} (standing : Standing made round .looping since letters)
    (forward : since ≤ later) :
    Standing made round (if made.timing.maxRuntime ≤ later then .ceiling else .looping) later
      (letters ++ [round]) := by
  cases standing with
  | observing count =>
    rw [← opening_succ]
    split
    · next past =>
      rw [← Role.turns_zero round made.timing.stall.repeats made.role]
      exact .turning 0 count.succ_pos past
    · exact .observing (count + 1)
  | resuming rounds positive past last =>
    have still : made.timing.maxRuntime ≤ later := Nat.le_trans past forward
    rw [if_pos still, List.append_assoc, last, ← Role.turns_succ]
    exact .turning (rounds + 1) positive still

/-- Every standing is the beginning of a word of the role. -/
theorem exists_word (standing : Standing made round phase since letters) :
    ∃ word ∈ made.role.language round made.timing.stall.repeats,
      letters = word.take letters.length := by
  cases standing with
  | fresh =>
    refine Role.exists_word_of_append_eq 0 (opening round 1) Nat.one_pos ?_
    rw [Role.turns_zero, List.nil_append]
  | observing count =>
    refine Role.exists_word_of_append_eq 0 [round] count.succ_pos ?_
    rw [Role.turns_zero, opening_succ]
  | turning rounds positive past | ended rounds positive role =>
    exact Role.exists_word_of_append_eq rounds [] positive (List.append_nil _)
  | @silent _ count remaining spent rounds positive past role counted =>
    refine Role.exists_word_of_append_eq (rounds + 1)
      (countdown remaining ++ [.stallFinished, round]) positive ?_
    rw [Role.turns_succ, List.append_assoc, List.cons_append, ← List.append_assoc spent, counted,
      role]
    rfl
  | resuming rounds positive past last =>
    refine Role.exists_word_of_append_eq (rounds + 1) [round] positive ?_
    rw [Role.turns_succ, List.append_assoc, last]

end Standing

/-! ### Steps and runs -/

/-- The letter of a round of the loop of a machine. -/
def Machine.round (machine : Machine) : Letter :=
  if machine.activeJitter = none then .idle else .attempt

/-- A machine as it is made waits in the range of its interval. -/
theorem Machine.activeJitter_create (config : Instance) (role : Role) (tap : Tap) (pid : UInt32)
    (time : Clock) :
    (Machine.create config role tap pid time).activeJitter = jitterBounds config.interval := by
  unfold activeJitter create Timing.ofInstance jitterBounds
  by_cases disabled : config.interval.toInt ≤ 0
  · simp [disabled]
  · have positive : 0 < config.interval.toInt := by omega
    simp [disabled, positive]

/-- The rounds of a machine as it is made are those of its interval. -/
theorem Machine.round_create (config : Instance) (role : Role) (tap : Tap) (pid : UInt32)
    (time : Clock) :
    (Machine.create config role tap pid time).round = roundLetter config.interval := by
  unfold round roundLetter
  rw [activeJitter_create]
  unfold jitterBounds
  by_cases disabled : config.interval.toInt ≤ 0
  · have idles : ¬ 0 < config.interval.toInt := by omega
    simp [disabled, idles]
  · have positive : 0 < config.interval.toInt := by omega
    simp [disabled, positive]

/-- Machines of the same make have the same rounds. -/
theorem Machine.SameMake.round_eq {machine later : Machine} (same : SameMake machine later) :
    later.round = machine.round := by
  unfold Machine.round
  rw [same.activeJitter_eq]

/-- An attempt is an attempt, whatever becomes of it. -/
theorem Machine.Attempt.letter_event (made : Machine.Attempt) (payload : Payload)
    (waitTime : ℕ) : (made.event payload waitTime).letter = .attempt := by
  unfold event
  cases made.result <;> rfl

/-- An attempt is only made in the loop. -/
theorem Machine.Transition.looping_of_attempt {machine : Machine} {world : World}
    {outcome : Machine.Outcome} (transition : Transition machine world outcome)
    (attempt : outcome.event.letter = .attempt) : machine.phase = .looping := by
  cases transition with
  | idle phase | beat phase => exact phase
  | delay | crash | fallSilent | goOn | endStall | keepSilent | rest =>
    simp [Event.letter] at attempt

/-- Every step takes a machine from one standing to the next. -/
theorem Standing.step {made machine : Machine} {world : World} {outcome : Machine.Outcome}
    {letters : List Letter} (same : SameMake made machine)
    (transition : Transition machine world outcome)
    (standing : Standing made made.round machine.phase
      (world.clock.now - machine.state.startTime) letters) :
    Standing made made.round outcome.machine.phase
      (outcome.world.clock.now - outcome.machine.state.startTime)
      (letters ++ [outcome.event.letter]) := by
  have forward : world.clock.now - machine.state.startTime ≤
      outcome.world.clock.now - machine.state.startTime :=
    Nat.sub_le_sub_right transition.now_le machine.state.startTime.nanos
  cases transition with
  | delay phase wait =>
    rw [phase] at standing
    cases standing
    exact .observing 0
  | idle phase disabled wait =>
    rw [phase] at standing
    have idles : made.round = .idle := if_pos (same.activeJitter_eq.symm.trans disabled)
    have next := standing.loopRound forward
    rw [idles] at next ⊢
    simpa only [Machine.checkCeiling, same.timing, phase, Event.letter] using next
  | beat phase enabled wait =>
    rw [phase] at standing
    have attempts : made.round = .attempt :=
      if_neg (by simp [← same.activeJitter_eq, enabled])
    have next := standing.loopRound forward
    rw [attempts] at next ⊢
    simpa only [Machine.checkCeiling, same.timing, phase, Machine.Attempt.letter_event] using next
  | crash phase role =>
    rw [phase] at standing
    have crashes : made.role = .crash := same.role.symm.trans role
    have cycle : made.role.cycle made.round made.timing.stall.repeats = [.crashed] := by
      rw [crashes]
      rfl
    cases standing with
    | turning rounds positive past =>
      show Standing made made.round .crashed _ (_ ++ [.crashed])
      rw [← cycle, ← Role.turns_succ]
      exact .ended (rounds + 1) positive crashes
  | fallSilent phase role =>
    rw [phase] at standing
    cases standing with
    | turning rounds positive past =>
      rw [same.timing]
      exact .silent rounds positive past (same.role.symm.trans role) rfl
  | goOn phase role =>
    rw [phase] at standing
    cases standing with
    | turning rounds positive past =>
      refine .resuming rounds positive past ?_
      rw [same.role.symm.trans role]
      rfl
  | endStall phase silence =>
    rw [phase] at standing
    cases standing with
    | silent rounds positive past role counted =>
      rw [countdown, List.append_nil] at counted
      rw [List.append_assoc, counted]
      refine .resuming rounds positive past ?_
      rw [role, List.append_assoc]
      rfl
  | keepSilent phase silence wait =>
    rw [phase] at standing
    cases standing with
    | silent rounds positive past role counted =>
      rw [List.append_assoc, List.cons_append]
      refine .silent rounds positive (Nat.le_trans past forward) role ?_
      rw [List.append_assoc, ← counted]
      rfl
  | rest phase =>
    rw [phase] at standing
    cases standing with
    | ended rounds positive role =>
      have cycle : made.role.cycle made.round made.timing.stall.repeats = [.crashed] := by
        rw [role]
        rfl
      show Standing made made.round machine.phase _ (_ ++ [.crashed])
      rw [phase, ← cycle, ← Role.turns_succ]
      exact .ended (rounds + 1) positive role

namespace Progress

/-- A run recounts where its machine stands: the machine is of the make that it started with, and
the letters so far are those of its standing. -/
structure Recounts (made : Machine) (progress : Progress) : Prop where
  same : SameMake made progress.machine
  standing : Standing made made.round progress.machine.phase
    (progress.world.clock.now - progress.machine.state.startTime) progress.letters

theorem letters_after (events : Array Stamped) (notices : Array Notice)
    (outcome : Machine.Outcome) :
    (after events notices outcome).letters =
      (events.toList.map fun stamped ↦ stamped.event.letter) ++ [outcome.event.letter] := by
  simp [letters, after]

theorem recounts_fresh (config : Instance) (role : Role) (tap : Tap) (pid : UInt32)
    (world : World) : Recounts (Machine.create config role tap pid world.clock)
      (fresh config role tap pid world) :=
  ⟨SameMake.refl _, .fresh⟩

theorem stable_recounts (made : Machine) : Stable (Recounts made) where
  step progress outcome recounts transition := by
    refine ⟨recounts.same.trans transition.sameMake, ?_⟩
    rw [letters_after]
    exact recounts.standing.step recounts.same transition
  outside _ _ _ recounts := ⟨recounts.same, recounts.standing⟩

/-- An undisturbed run of a fresh machine spells the beginning of a word of its role, one letter for
each step. -/
theorem letters_eq_take_word (config : Instance) (role : Role) (tap : Tap) (pid : UInt32)
    (world : World) {moves : List Move} (spares : ∀ made ∈ moves, made.sparesClock = true)
    {last : Progress} (followed : (fresh config role tap pid world).follow moves = .ok last) :
    ∃ word ∈ role.language (roundLetter config.interval)
        (StallPlan.ofInterval config.interval).repeats,
      last.letters = word.take (moves.count .step) := by
  have recounts := (stable_recounts _).follow spares
    (recounts_fresh config role tap pid world) followed
  obtain ⟨word, spelled, beginning⟩ := recounts.standing.exists_word
  have size := size_events_of_follow followed
  have length : last.letters.length = moves.count .step := by
    rw [length_letters, size]
    exact Nat.zero_add _
  rw [length] at beginning
  rw [Machine.round_create] at spelled
  exact ⟨word, spelled, beginning⟩

/-- A machine that falls silent, with an interval of three seconds and an outage: its second cycle
has begun after two hundred and forty steps. -/
theorem letters_through_outage :
    ∃ word ∈ Role.noHeartbeat.language .attempt 50, ∃ last,
      (fresh ⟨2, "idler", 0, 3, 12345⟩ .noHeartbeat ⟨12345, 0⟩ 1007 (World.ofSeed 7)).follow
        ((Schedule.outage 3 8).moves 240) = .ok last ∧ last.letters = word.take 240 := by
  obtain ⟨last, followed⟩ := exists_silent_run
  obtain ⟨word, spelled, letters⟩ := letters_eq_take_word ⟨2, "idler", 0, 3, 12345⟩ .noHeartbeat
    ⟨12345, 0⟩ 1007 (World.ofSeed 7) (Schedule.outage_sparesClock 3 8 |>.moves 240) followed
  have round : roundLetter 3 = .attempt := by decide
  have repeats : (StallPlan.ofInterval 3).repeats = 50 := by decide +kernel
  have steps : ((Schedule.outage 3 8).moves 240).count .step = 240 := by decide +kernel
  rw [round, repeats] at spelled
  rw [steps] at letters
  exact ⟨word, spelled, last, followed, letters⟩

end Progress

end Heartbeat
