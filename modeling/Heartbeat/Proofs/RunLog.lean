import Heartbeat.Proofs.Interference
import Heartbeat.Proofs.OutageIndependence
import Heartbeat.Proofs.RunHistory
import Heartbeat.Trace

/-!
# What a run says

The log of a run follows from its events, word for word. `Machine.line?` is the line of an event,
given the events before it: most events have one line whatever came before, an idle round has none,
a crash speaks once, and a role that is not recognized is warned about at the first ceiling only.
The line of an attempt has the destination with the payload and the wait time that the event
reports, or with the text of its error. `Machine.lines` are the lines of all events in order, and
`Progress.log_follows_events` says that they are the log of every run, after one line for the
machine and before one for the end of the run.

The flag for the warning and the elapsed time of a crash are parts of the machine that its events do
not show. `Progress.Logged` ties them to the history: the flag is set exactly if a ceiling was
reached, and the elapsed time at the ceiling is that between the first and the last event.
`Progress.Hushed` counts the lines of a stall, `Progress.Warned` the warnings of a run, and
`Progress.Refused` says which errors its events have.
-/

set_option autoImplicit false
set_option relaxedAutoImplicit false

namespace Heartbeat

open Machine (SameMake Transition)

/-! ### The lines of a history -/

/-- The name of an instance as its log lines show it. In a terminal, control sequences set the two
colours of a palette before it and reset them after it. -/
def Palette.shown (palette : Palette) (name : String) : String :=
  match palette with
  | .plain => name
  | .coloured foreground background =>
    "\x1b[48;5;" ++ toString background.code ++ "m\x1b[38;5;" ++ toString foreground.code ++ "m" ++
      name ++ "\x1b[49m\x1b[39m"

theorem Palette.paint_eq (palette : Palette) (name : String) :
    palette.paint name = palette.shown name := by
  cases palette with
  | plain => rfl
  | coloured foreground background =>
    exact String.toList_inj.mp (by simp [paint, control, shown])

/-- A heartbeat that was delivered is told with its destination, its payload and its wait time. -/
theorem Notice.entry_delivered (label destination : String) (payload : Payload) (waitTime : ℕ) :
    entry label (.delivered destination payload waitTime) =
      ⟨.info, .machine, label ++ " Heartbeat sent to " ++ destination ++ ": " ++
        ("p" ++ toString payload.pid.toNat) ++ " after " ++ toString waitTime ++ " seconds"⟩ := by
  have text : payload.text = "p" ++ toString payload.pid.toNat := String.toList_inj.mp (by
    simp [Payload.text, Payload.chars, Payload.mark, Nat.repr])
  rw [← text]
  rfl

namespace Machine

/-- The time between the first and the last of some events. -/
def span (events : List Stamped) : Span :=
  match events.head?, events.getLast? with
  | some first, some last => last.time.now - first.time.now
  | _, _ => Span.zero

/-- The machine of an instance, with its name in the colours of a palette. -/
def painted (config : Instance) (role : Role) (tap : Tap) (pid : UInt32) (time : Clock)
    (palette : Palette) : Machine :=
  (create config role tap pid time).withPalette palette

/-- The line for the making of a machine. -/
def firstLine (made : Machine) : LogEntry :=
  ⟨.info, .machine, made.config.name ++ ": max runtime " ++
    toString (made.timing.maxRuntime.nanos / 1000000000) ++ "s, heartbeats " ++
    (if 0 < made.config.interval.toInt then "enabled" else "disabled") ++ ", role " ++
    made.role.name⟩

theorem entry_creation_painted (config : Instance) (role : Role) (tap : Tap) (pid : UInt32)
    (time : Clock) (palette : Palette) (label : String) :
    (painted config role tap pid time palette).creation.entry label =
      (painted config role tap pid time palette).firstLine := by
  by_cases enabled : 0 < config.interval.toInt <;>
    simp [painted, withPalette, create, Timing.ofInstance, creation, Notice.entry, Notice.level,
      Notice.text, firstLine, enabled, Span.seconds, Span.perSecond]

/-- The line for the beginning of a stall. -/
def stallingLine (made : Machine) (label : String) : LogEntry :=
  ⟨.info, .machine, label ++ " Stalling: " ++ toString made.timing.stall.repeats ++ " x " ++
    Binary64.tenths made.timing.stall.interval ++ "s without heartbeats"⟩

/-- The line for one step of a stall. -/
def silentLine (label : String) : LogEntry :=
  ⟨.info, .machine, label ++ " No more heartbeats"⟩

/-- The line for the end of a stall. -/
def resumingLine (label : String) : LogEntry :=
  ⟨.debug, .machine, label ++ " Stall window over, resuming"⟩

/-- The line for an event of a machine that goes by a label, given the events before it. -/
def line? (made : Machine) (label : String) (before : List Stamped) : Event → Option LogEntry
  | .initialDelay slept =>
    if 0 < made.config.delay.toInt then
      some ⟨.info, .machine, label ++ " Waiting " ++ toString (slept.nanos / 1000000000) ++
        " seconds heartbeat_delay..."⟩
    else none
  | .heartbeatSent payload waitTime _ =>
    some ⟨.info, .machine, label ++ " Heartbeat sent to " ++
      ("sim:" ++ toString made.tap.port.toNat) ++ ": " ++ ("p" ++ toString payload.pid.toNat) ++
      " after " ++ toString waitTime ++ " seconds"⟩
  | .sendFailed error _ =>
    some ⟨.warning, .machine, label ++ " Heartbeat to " ++
      ("sim:" ++ toString made.tap.port.toNat) ++ " failed: " ++ error.message⟩
  | .idle => none
  | .ceilingReached _ .noHeartbeat => some (made.stallingLine label)
  | .ceilingReached _ (.unrecognized name) =>
    if before.any (·.event.isCeiling) then none
    else
      some ⟨.warning, .machine, label ++ " Role " ++ Text.quoted name ++
        " has no ceiling action, continuing"⟩
  | .ceilingReached _ .crash => none
  | .stalled _ => some (silentLine label)
  | .stallFinished => some (resumingLine label)
  | .crashed =>
    if before.any (·.event == .crashed) then none
    else
      some ⟨.info, .machine, label ++ " Program stopped after " ++
        toString ((span before).nanos / 1000000000) ++ "s"⟩

/-- The lines for some events of a machine, given the events before them. -/
def lines (made : Machine) (label : String) : List Stamped → List Stamped → List LogEntry
  | _, [] => []
  | before, stamped :: rest =>
    (made.line? label before stamped.event).toList ++ lines made label (before ++ [stamped]) rest

/-- One more event has its line after all the others. -/
theorem lines_concat (made : Machine) (label : String) (before events : List Stamped)
    (stamped : Stamped) :
    made.lines label before (events ++ [stamped]) =
      made.lines label before events ++
        (made.line? label (before ++ events) stamped.event).toList := by
  induction events generalizing before with
  | nil => simp [lines]
  | cons first events ih =>
    rw [List.cons_append, lines, ih, lines, List.append_assoc, List.append_assoc,
      List.singleton_append]

end Machine

/-! ### What one step leaves -/

namespace Machine

variable {machine : Machine} {world : World} {outcome : Outcome}

/-- A machine sleeps before its loop exactly if it has a delay. -/
theorem isSome_initialSleep (config : Instance) :
    (Timing.ofInstance config).initialSleep.isSome = decide (0 < config.delay.toInt) := by
  unfold Timing.ofInstance
  by_cases delayed : 0 < config.delay.toInt <;> simp [delayed]

theorem Attempt.isCeiling_event (made : Attempt) (payload : Payload) (waitTime : ℕ) :
    (made.event payload waitTime).isCeiling = false := by
  unfold Attempt.event
  cases made.result <;> rfl

theorem Attempt.event_ne_crashed (made : Attempt) (payload : Payload) (waitTime : ℕ) :
    made.event payload waitTime ≠ .crashed := by
  intro crashed
  cases (letter_event made payload waitTime).symm.trans (congrArg Event.letter crashed)

/-- The flag is set at a ceiling and never cleared. -/
theorem Transition.ceilingNoted_eq (transition : Transition machine world outcome) :
    outcome.machine.ceilingNoted = (machine.ceilingNoted || outcome.event.isCeiling) := by
  cases transition with
  | beat =>
    rw [Attempt.isCeiling_event, Bool.or_false]
    rfl
  | fallSilent | goOn => exact (Bool.or_true _).symm
  | delay | idle | crash | endStall | keepSilent | rest => exact (Bool.or_false _).symm

/-- A machine has crashed exactly after a crash. -/
theorem Transition.phase_eq_crashed_iff (transition : Transition machine world outcome) :
    outcome.machine.phase = .crashed ↔ outcome.event = .crashed := by
  have looping (phase : machine.phase = .looping) : outcome.machine.phase ≠ .crashed := by
    rcases transition.turned phase with still | ceiling
    · simp [still]
    · simp [ceiling]
  cases transition with
  | idle phase => exact iff_of_false (looping phase) nofun
  | beat phase => exact iff_of_false (looping phase) (Attempt.event_ne_crashed _ _ _)
  | crash => exact iff_of_true rfl rfl
  | rest phase => exact iff_of_true phase rfl
  | delay | fallSilent | goOn | endStall | keepSilent => exact iff_of_false nofun nofun

/-- A machine that has crashed goes on crashing. -/
theorem Transition.event_eq_crashed (transition : Transition machine world outcome)
    (crashed : machine.phase = .crashed) : outcome.event = .crashed := by
  have rests := transition.step_eq
  rw [step_of_crashed crashed] at rests
  cases rests
  rfl

/-- At the ceiling the elapsed time is the time since the start of the loop. -/
theorem Transition.elapsed_eq (transition : Transition machine world outcome)
    (ceiling : outcome.machine.phase = .ceiling) :
    outcome.machine.state.elapsed =
      outcome.world.clock.now - outcome.machine.state.startTime := by
  cases transition with
  | idle | beat => rfl
  | rest phase => cases phase.symm.trans ceiling
  | delay | crash | fallSilent | goOn | endStall | keepSilent => cases ceiling

end Machine

namespace Progress

/-! ### The log of a run -/

/-- The notices of a run are the lines of its events, and what the machine keeps for its later lines
is what the events tell. -/
structure Logged (made : Machine) (progress : Progress) : Prop where
  same : SameMake made progress.machine
  opened : Opened progress
  noted : progress.machine.ceilingNoted = progress.events.toList.any (·.event.isCeiling)
  crashed : progress.events.toList.any (·.event == .crashed) = true ↔
    progress.machine.phase = .crashed
  elapsed : progress.machine.phase = .ceiling →
    progress.machine.state.elapsed = Machine.span progress.events.toList
  lines : progress.notices.toList.map (Notice.entry made.label) =
    made.lines made.label [] progress.events.toList

theorem toList_notices_after (events : Array Stamped) (notices : Array Notice)
    (outcome : Machine.Outcome) :
    (after events notices outcome).notices.toList = notices.toList ++ outcome.notice.toList := by
  unfold after
  cases outcome.notice <;> simp

theorem toList_events_after (events : Array Stamped) (notices : Array Notice)
    (outcome : Machine.Outcome) :
    (after events notices outcome).events.toList =
      events.toList ++ [⟨outcome.world.clock, outcome.event⟩] :=
  Array.toList_push

section Step

variable {made : Machine} {progress : Progress} {outcome : Machine.Outcome}

/-- What a step says is the line of its event. -/
theorem Logged.line_eq (logged : Logged made progress)
    (sleeps : made.timing.initialSleep.isSome = decide (0 < made.config.delay.toInt))
    (transition : Transition progress.machine progress.world outcome) :
    outcome.notice.map (Notice.entry made.label) =
      made.line? made.label progress.events.toList outcome.event := by
  obtain ⟨same, -, noted, crashed, elapsed, -⟩ := logged
  cases transition with
  | delay =>
    dsimp only [Machine.line?]
    rw [same.timing]
    by_cases delayed : 0 < made.config.delay.toInt
    · rw [decide_eq_true delayed] at sleeps
      obtain ⟨slept, sleeps⟩ := Option.isSome_iff_exists.mp sleeps
      rw [sleeps, if_pos delayed]
      rfl
    · rw [decide_eq_false delayed] at sleeps
      have awake : made.timing.initialSleep = none :=
        Option.not_isSome_iff_eq_none.mp (ne_true_of_eq_false sleeps)
      rw [awake, if_neg delayed]
      rfl
  | idle | endStall | keepSilent => rfl
  | @beat low high =>
    unfold Machine.Attempt.event Machine.Attempt.notice
    rw [same.tap]
    cases (progress.machine.attempt progress.world low high).result with
    | error error => rfl
    | ok count => exact congrArg some (Notice.entry_delivered _ _ _ _)
  | crash phase =>
    have running : progress.events.toList.any (·.event == .crashed) ≠ true := by
      rw [Ne, crashed, phase]
      exact nofun
    exact ((if_neg running).trans (by rw [← elapsed phase]; rfl)).symm
  | fallSilent phase role =>
    dsimp only [Machine.line?]
    rw [role, same.timing]
    rfl
  | goOn phase role =>
    dsimp only [Machine.line?]
    rw [role, noted]
    split_ifs <;> rfl
  | rest phase => exact (if_pos (crashed.mpr phase)).symm

end Step

theorem kept_logged {made : Machine}
    (sleeps : made.timing.initialSleep.isSome = decide (0 < made.config.delay.toInt)) :
    Kept (Logged made) := by
  intro progress outcome logged transition
  have opened := kept_opened progress outcome logged.opened transition
  constructor
  case same => exact logged.same.trans transition.sameMake
  case opened => exact opened
  case noted =>
    rw [toList_events_after, List.any_append, ← logged.noted, List.any_cons, List.any_nil,
      Bool.or_false]
    exact transition.ceilingNoted_eq
  case crashed =>
    rw [toList_events_after, List.any_append, Bool.or_eq_true, logged.crashed, List.any_cons,
      List.any_nil, Bool.or_false, beq_iff_eq]
    refine Iff.trans ⟨fun crashes ↦ ?_, .inr⟩ transition.phase_eq_crashed_iff.symm
    exact crashes.elim transition.event_eq_crashed id
  case elapsed =>
    intro ceiling
    obtain ⟨time, slept, rest, events, start⟩ := opened.first transition.phase_ne_initialDelay
    have final : (after progress.events progress.notices outcome).events.toList.getLast? =
        some ⟨outcome.world.clock, outcome.event⟩ := by
      rw [toList_events_after, List.getLast?_concat]
    rw [events] at final
    unfold Machine.span
    rw [events, final, List.head?_cons]
    exact (transition.elapsed_eq ceiling).trans (congrArg _ start.symm)
  case lines =>
    rw [toList_notices_after, toList_events_after, Machine.lines_concat, List.map_append,
      logged.lines, List.nil_append, ← logged.line_eq sleeps transition]
    cases outcome.notice <;> rfl

/-- The log is one line for the machine, the lines of its notices, and one line for the end. -/
theorem Logged.logs_eq {made : Machine} {progress : Progress} (logged : Logged made progress) :
    progress.logs = made.creation.entry made.label ::
      progress.notices.toList.map (Notice.entry made.label) ++ [progress.closing] := by
  have creation : progress.machine.creation = made.creation := by
    unfold Machine.creation
    rw [logged.same.config, logged.same.timing, logged.same.role]
  unfold logs
  dsimp only
  rw [creation, logged.same.label]
  rfl

/-! ### The lines of a stall -/

/-- A stall has one line for its beginning and one for each step that it has taken, and after all of
them one for its end. -/
structure Hushed (made : Machine) (progress : Progress) : Prop where
  same : SameMake made progress.machine
  silent : ∀ remaining, progress.machine.phase = .stalling remaining →
    remaining ≤ made.timing.stall.repeats ∧ ∃ front, progress.notices.toList =
      front ++ .stalling made.timing.stall ::
        List.replicate (made.timing.stall.repeats - remaining) .silent
  resumed : ∀ time, progress.events.back? = some ⟨time, .stallFinished⟩ →
    ∃ front, progress.notices.toList =
      front ++ .stalling made.timing.stall ::
        List.replicate made.timing.stall.repeats .silent ++ [.resuming]

theorem kept_hushed (made : Machine) : Kept (Hushed made) := by
  intro progress outcome hushed transition
  obtain ⟨same, silent, -⟩ := hushed
  refine ⟨same.trans transition.sameMake, fun remaining stalling ↦ ?_, fun time finished ↦ ?_⟩
  · rw [toList_notices_after]
    change outcome.machine.phase = _ at stalling
    have elsewhere : progress.machine.phase ≠ .looping := by
      intro looping
      rcases transition.turned looping with still | ceiling
      · cases still.symm.trans stalling
      · cases ceiling.symm.trans stalling
    cases transition with
    | idle phase | beat phase => exact absurd phase elsewhere
    | fallSilent =>
      cases stalling
      rw [same.timing, Nat.sub_self]
      exact ⟨Nat.le_refl _, _, rfl⟩
    | keepSilent phase =>
      cases stalling
      obtain ⟨few, front, notices⟩ := silent _ phase
      refine ⟨Nat.le_of_succ_le few, front, ?_⟩
      have more : made.timing.stall.repeats - remaining =
          made.timing.stall.repeats - (remaining + 1) + 1 := by omega
      rw [notices, more, List.replicate_succ', List.append_assoc, List.cons_append]
      rfl
    | rest phase => cases phase.symm.trans stalling
    | delay | crash | goOn | endStall => cases stalling
  · have last : outcome.event = .stallFinished := by
      unfold after at finished
      rw [Array.back?_push, Option.some_inj] at finished
      exact congrArg Stamped.event finished
    rw [toList_notices_after]
    cases transition with
    | beat => cases (Machine.Attempt.letter_event _ _ _).symm.trans (congrArg Event.letter last)
    | endStall phase =>
      obtain ⟨-, front, notices⟩ := silent 0 phase
      exact ⟨front, congrArg (· ++ [Notice.resuming]) notices⟩
    | delay | idle | crash | fallSilent | goOn | keepSilent | rest => cases last

/-! ### The warnings of a run -/

/-- Whether there is one at all is the number of them up to one. -/
theorem ite_any_eq_min_countP {α : Type} (kind : α → Bool) (items : List α) :
    (if items.any kind then 1 else 0) = min 1 (items.countP kind) := by
  by_cases some : items.any kind = true
  · have positive : 0 < items.countP kind := List.countP_pos_iff.mpr (List.any_eq_true.mp some)
    rw [if_pos some]
    omega
  · have none : items.countP kind = 0 := by
      by_contra positive
      exact some (List.any_eq_true.mpr (List.countP_pos_iff.mp (Nat.pos_of_ne_zero positive)))
    rw [if_neg some, none]
    rfl

/-- A machine whose role is not recognized has warned of every attempt that failed, and once of its
role if it has reached a ceiling. -/
structure Warned (name : String) (progress : Progress) : Prop where
  role : progress.machine.role = .unrecognized name
  count : progress.notices.toList.countP (·.level == .warning) =
    progress.events.toList.countP (·.event.isFailed) +
      if progress.machine.ceilingNoted then 1 else 0

/-- A step warns if it fails to send or reaches the first ceiling. -/
theorem countP_notice {name : String} {machine : Machine} {world : World}
    {outcome : Machine.Outcome} (role : machine.role = .unrecognized name)
    (transition : Transition machine world outcome) :
    outcome.notice.toList.countP (·.level == .warning) +
        (if machine.ceilingNoted then 1 else 0) =
      [Stamped.mk outcome.world.clock outcome.event].countP (·.event.isFailed) +
        if outcome.machine.ceilingNoted then 1 else 0 := by
  cases transition with
  | delay => cases machine.timing.initialSleep <;> rfl
  | @beat low high =>
    unfold Machine.Attempt.event Machine.Attempt.notice
    cases (machine.attempt world low high).result <;> rfl
  | goOn => cases machine.ceilingNoted <;> rfl
  | crash phase other | fallSilent phase other => cases role.symm.trans other
  | idle | endStall | keepSilent | rest => rfl

theorem kept_warned (name : String) : Kept (Warned name) := by
  intro progress outcome warned transition
  obtain ⟨role, count⟩ := warned
  refine ⟨transition.sameMake.role.trans role, ?_⟩
  have more := countP_notice role transition
  rw [toList_notices_after, toList_events_after, List.countP_append, List.countP_append, count]
  show _ = _ + if outcome.machine.ceilingNoted then 1 else 0
  omega

/-! ### The errors of a run -/

/-- The attempts of a run that failed were refused. -/
structure Refused (made : Machine) (progress : Progress) : Prop where
  same : SameMake made progress.machine
  refused : ∀ stamped ∈ progress.events.toList, ∀ error nextWait,
    stamped.event = .sendFailed error nextWait → error = made.tap.refusal

theorem kept_refused (made : Machine) : Kept (Refused made) := by
  intro progress outcome refused transition
  obtain ⟨same, refused⟩ := refused
  refine ⟨same.trans transition.sameMake, fun stamped member error nextWait failed ↦ ?_⟩
  rw [toList_events_after, List.mem_append, List.mem_singleton] at member
  rcases member with earlier | rfl
  · exact refused stamped earlier error nextWait failed
  · cases transition with
    | @beat low high =>
      unfold Machine.Attempt.event at failed
      dsimp only at failed
      cases result : (progress.machine.attempt progress.world low high).result with
      | ok count =>
        rw [result] at failed
        cases failed
      | error error =>
        rw [result] at failed
        cases failed
        rw [Machine.error_eq_refusal result, same.tap]
    | delay | idle | crash | fallSilent | goOn | endStall | keepSilent | rest => cases failed

/-! ### Every run -/

/-- The log of a run is one line for the machine, the lines for its events, and one line for the
end, in which the machine goes by its name in the colours of its palette. A stall that ends has had
as many lines as its plan has steps. If the role is not recognized, there is one warning for every
attempt that failed, and one for the role once a ceiling was reached, however many follow. The
error of an attempt that failed names the destination. Others may do to the world what they like. -/
theorem log_follows_events (config : Instance) (role : Role) (tap : Tap) (pid : UInt32)
    (world : World) (palette : Palette) {moves : List Move} {last : Progress}
    (followed : (start (Machine.painted config role tap pid world.clock palette)
      world).follow moves = .ok last) :
    let made := Machine.painted config role tap pid world.clock palette
    let label := palette.shown config.name
    last.logs = made.firstLine :: made.lines label [] last.events.toList ++ [last.closing] ∧
      (∀ time, last.events.back? = some ⟨time, .stallFinished⟩ → ∃ front, last.logs =
        front ++ made.stallingLine label ::
          List.replicate made.timing.stall.repeats (Machine.silentLine label) ++
            [Machine.resumingLine label, last.closing]) ∧
      (∀ name, role = .unrecognized name → last.logs.countP (·.level == .warning) =
        last.events.toList.countP (·.event.isFailed) +
          min 1 (last.events.toList.countP (·.event.isCeiling))) ∧
      ∀ stamped ∈ last.events.toList, ∀ error nextWait,
        stamped.event = .sendFailed error nextWait → error.message =
          "Network error: " ++ ("sim:" ++ toString tap.port.toNat ++ ": Connection refused") := by
  intro made label
  have named : made.label = label := palette.paint_eq config.name
  have logged : Logged made last := by
    refine (kept_logged (Machine.isSome_initialSleep config)).follow (fun _ _ logged ↦ ?_) ?_
      followed
    · exact { logged with opened := ⟨logged.opened.fresh, logged.opened.first⟩ }
    · exact ⟨SameMake.refl _, ⟨fun _ ↦ rfl, fun started ↦ absurd rfl started⟩, rfl,
        iff_of_false nofun nofun, nofun, rfl⟩
  have first := Machine.entry_creation_painted config role tap pid world.clock palette label
  have logs := logged.logs_eq
  rw [named, first] at logs
  refine ⟨by rw [logs, ← named, logged.lines], fun time finished ↦ ?_, fun name unknown ↦ ?_,
    fun stamped member error nextWait failed ↦ ?_⟩
  · have hushed : Hushed made last :=
      (kept_hushed made).follow (fun _ _ hushed ↦ ⟨hushed.same, hushed.silent, hushed.resumed⟩)
        ⟨SameMake.refl _, fun _ ↦ by exact nofun, fun _ ↦ by simp [start]⟩ followed
    obtain ⟨front, notices⟩ := hushed.resumed time finished
    refine ⟨made.firstLine :: front.map (Notice.entry label), ?_⟩
    rw [logs, notices]
    simp only [List.map_append, List.map_cons, List.map_replicate, List.cons_append,
      List.append_assoc]
    rfl
  · have warned : Warned name last :=
      (kept_warned name).follow (fun _ _ warned ↦ ⟨warned.role, warned.count⟩) ⟨unknown, rfl⟩
        followed
    rw [logs, List.countP_append, List.countP_cons_of_neg (by exact nofun), List.countP_map]
    show List.countP (·.level == .warning) last.notices.toList + 0 = _
    rw [warned.count, Nat.add_zero, logged.noted, ite_any_eq_min_countP]
  · have refused : Refused made last :=
      (kept_refused made).follow (fun _ _ refused ↦ ⟨refused.same, refused.refused⟩)
        ⟨SameMake.refl _, fun _ none ↦ absurd none List.not_mem_nil⟩ followed
    rw [refused.refused stamped member error nextWait failed]
    rfl

/-- What a machine does that loses every second heartbeat and whose role nobody knows, when someone
moves the clock to its ceiling. -/
def workerEvents : List Stamped :=
  [⟨⟨1000000000⟩, .initialDelay (Span.ofSeconds 1)⟩, ⟨⟨2000000000⟩, .heartbeatSent ⟨1007⟩ 2 1⟩,
    ⟨⟨3000000000⟩, .sendFailed (.network "sim:12345: Connection refused") 1⟩,
    ⟨⟨204000000000⟩, .heartbeatSent ⟨1007⟩ 1 1⟩,
    ⟨⟨204000000000⟩, .ceilingReached (Span.ofSeconds 203) (.unrecognized "healthy")⟩,
    ⟨⟨205000000000⟩, .sendFailed (.network "sim:12345: Connection refused") 1⟩,
    ⟨⟨205000000000⟩, .ceilingReached (Span.ofSeconds 204) (.unrecognized "healthy")⟩]

/-- An idle machine through its whole stall, and a machine with a role that nobody knows, which
loses every second heartbeat: two warnings for those and one for the role in two ceilings. -/
theorem log_follows_events_through_stall :
    (∃ last front, (start (Machine.painted ⟨2, "idler", 0, 0, 12345⟩ .noHeartbeat ⟨12345, 0⟩ 1007
        Clock.start .plain) (World.ofSeed 7)).follow
          (.step :: .outside (.advance (Span.ofSeconds 200)) :: List.replicate 53 .step) =
            .ok last ∧
      last.logs = front ++
        ⟨.info, .machine, "idler Stalling: 50 x 2.0s without heartbeats"⟩ ::
          List.replicate 50 ⟨.info, .machine, "idler No more heartbeats"⟩ ++
            [⟨.debug, .machine, "idler Stall window over, resuming"⟩, last.closing]) ∧
    ∃ last, (start (Machine.painted ⟨1, "worker", 2, 3, 12345⟩ (.unrecognized "healthy")
        ⟨12345, 2⟩ 1007 Clock.start .plain) (World.ofSeed 7)).follow
          [.step, .step, .step, .outside (.advance (Span.ofSeconds 200)), .step, .step, .step,
            .step] = .ok last ∧
      last.logs.dropLast.map LogEntry.line =
        ["INFO worker: max runtime 180s, heartbeats enabled, role healthy",
          "INFO worker Waiting 1 seconds heartbeat_delay...",
          "INFO worker Heartbeat sent to sim:12345: p1007 after 2 seconds",
          "WARN worker Heartbeat to sim:12345 failed: Network error: sim:12345: Connection refused",
          "INFO worker Heartbeat sent to sim:12345: p1007 after 1 seconds",
          "WARN worker Role \"healthy\" has no ceiling action, continuing",
          "WARN worker Heartbeat to sim:12345 failed: Network error: sim:12345: Connection refused"] ∧
      last.logs.countP (·.level == .warning) = 3 := by
  have stalled : ((start (Machine.painted ⟨2, "idler", 0, 0, 12345⟩ .noHeartbeat ⟨12345, 0⟩ 1007
      Clock.start .plain) (World.ofSeed 7)).follow
        (.step :: .outside (.advance (Span.ofSeconds 200)) :: List.replicate 53 .step)).map
      (fun last ↦ last.events.back?.map Stamped.event) = .ok (some .stallFinished) := by
    decide +kernel
  have beaten : ((start (Machine.painted ⟨1, "worker", 2, 3, 12345⟩ (.unrecognized "healthy")
      ⟨12345, 2⟩ 1007 Clock.start .plain) (World.ofSeed 7)).follow
        [.step, .step, .step, .outside (.advance (Span.ofSeconds 200)), .step, .step, .step,
          .step]).map (fun last ↦ last.events.toList) = .ok workerEvents := by
    decide +kernel
  obtain ⟨idler, followed, finished⟩ := map_eq_ok_iff.mp stalled
  obtain ⟨worker, lossy, events⟩ := map_eq_ok_iff.mp beaten
  obtain ⟨⟨time, event⟩, stamped, rfl⟩ := Option.map_eq_some_iff.mp finished
  obtain ⟨front, logs⟩ := (log_follows_events ⟨2, "idler", 0, 0, 12345⟩ .noHeartbeat ⟨12345, 0⟩ 1007
    (World.ofSeed 7) .plain followed).2.1 time stamped
  obtain ⟨lines, -, warnings, -⟩ := log_follows_events ⟨1, "worker", 2, 3, 12345⟩
    (.unrecognized "healthy") ⟨12345, 2⟩ 1007 (World.ofSeed 7) .plain lossy
  refine ⟨⟨idler, front, followed, logs.trans ?_⟩, worker, lossy, ?_, ?_⟩
  · have repeats : (StallPlan.ofInterval 0).repeats = 50 := by decide +kernel
    have beginning : "idler" ++ " Stalling: " ++ toString 50 ++ " x " ++
        Binary64.tenths (StallPlan.ofInterval 0).interval ++ "s without heartbeats" =
          "idler Stalling: 50 x 2.0s without heartbeats" := by decide +kernel
    have silent : "idler" ++ " No more heartbeats" = "idler No more heartbeats" := by decide
    have resuming : "idler" ++ " Stall window over, resuming" =
        "idler Stall window over, resuming" := by decide
    show front ++ ⟨.info, .machine, "idler" ++ " Stalling: " ++
      toString (StallPlan.ofInterval 0).repeats ++ " x " ++
      Binary64.tenths (StallPlan.ofInterval 0).interval ++ "s without heartbeats"⟩ ::
        List.replicate (StallPlan.ofInterval 0).repeats
          ⟨.info, .machine, "idler" ++ " No more heartbeats"⟩ ++
            [⟨.debug, .machine, "idler" ++ " Stall window over, resuming"⟩, idler.closing] = _
    rw [repeats, beginning, silent, resuming]
  · rw [lines, List.dropLast_concat, events]
    decide +kernel
  · rw [warnings "healthy" rfl, events]
    decide

end Progress

end Heartbeat
