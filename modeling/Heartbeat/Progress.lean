import Heartbeat.Machine

/-!
# Runs of a machine

A `Progress` is a machine in its world together with what it has done: its events, each with the
time after its step, and what it has said. `Progress.run` lets it step as long as the world allows
it to go on, until an event that ends the run; a fault ends the run as well and leaves the events
before it (`Interruption`). `Progress.steps` is the run of a number of steps.

Other things may happen to the world between the steps of the machine. A `Move` is one or the
other, and `Progress.follow` makes a list of moves.
-/

set_option autoImplicit false
set_option relaxedAutoImplicit false

namespace Heartbeat

/-- An event and the time after its step. -/
structure Stamped where
  time : Clock
  event : Event
deriving DecidableEq

/-- A machine in its world, with the events and the notices so far. -/
structure Progress where
  machine : Machine
  world : World
  events : Array Stamped
  notices : Array Notice

/-- A fault in a run, and the events before it. -/
structure Interruption where
  fault : Fault
  events : Array Stamped

namespace Progress

/-- The start of a run. -/
def start (machine : Machine) (world : World) : Progress :=
  ⟨machine, world, #[], #[]⟩

/-- The progress after one more step, given its outcome. -/
def after (events : Array Stamped) (notices : Array Notice) (outcome : Machine.Outcome) :
    Progress where
  machine := outcome.machine
  world := outcome.world
  events := events.push ⟨outcome.world.clock, outcome.event⟩
  notices := match outcome.notice with
    | some notice => notices.push notice
    | none => notices

/-! ### Running -/

/-- Steps the machine while the world lets it go on, until an event that ends the run, at most as
many times as the last argument says. -/
def run (goesOn : World → Bool) (ends : Event → Bool) : Nat → Progress →
    Except Interruption Progress
  | 0, progress => .ok progress
  | fuel + 1, ⟨machine, world, events, notices⟩ =>
    if goesOn world then
      match machine.step world with
      | .error fault => .error ⟨fault, events⟩
      | .ok outcome =>
        let ended := ends outcome.event
        let progress := after events notices outcome
        if ended then .ok progress else run goesOn ends fuel progress
    else .ok ⟨machine, world, events, notices⟩

/-- Steps the machine a number of times. -/
def steps (count : Nat) (progress : Progress) : Except Interruption Progress :=
  run (fun _ ↦ true) (fun _ ↦ false) count progress

/-- Steps the machine until an event that is wanted, at most as many times as the bound says. -/
def stepsUntil (wanted : Event → Bool) (bound : Nat) (progress : Progress) :
    Except Interruption Progress :=
  run (fun _ ↦ true) wanted bound progress

/-! ### Moves -/

/-- The progress after something was done to its world from outside. -/
def undergo (intervention : Intervention) (progress : Progress) : Except Fault Progress :=
  (progress.world.undergo intervention).map fun world ↦ { progress with world := world }

end Progress

/-- What happens in a run: a step of the machine, or something from outside. -/
inductive Move
  | step
  | outside (intervention : Intervention)
deriving DecidableEq

namespace Progress

/-- The progress after one move. -/
def move (progress : Progress) : Move → Except Fault Progress
  | .step => (progress.machine.step progress.world).map (after progress.events progress.notices)
  | .outside intervention => progress.undergo intervention

/-- The progress after a list of moves. -/
def follow (moves : List Move) (progress : Progress) : Except Fault Progress :=
  moves.foldlM move progress

end Progress

end Heartbeat
