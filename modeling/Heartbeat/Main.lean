import Heartbeat.CommandLine.Child
import Heartbeat.CommandLine.Simulation
import Heartbeat.Machine

/-!
# The command line

The first argument picks the program: `simulate` runs scenarios in virtual time, and `child` is one
instance. A child that has started beats in real time: after each step it waits for as long as the
step moved its clock. Its heartbeats go to a recorder in the place of a socket.
-/

set_option autoImplicit false
set_option relaxedAutoImplicit false

namespace Heartbeat

open Heartbeat.CommandLine Heartbeat.Settings

/-- Writes what a program has written and gives its exit status. -/
def conclude (outcome : Outcome) : IO UInt32 := do
  IO.print outcome.outputText
  IO.eprint outcome.errorText
  return UInt32.ofNat outcome.status

/-- The bytes of the files with the given paths, as far as there are such files. -/
def readFiles (paths : List String) : IO (List (String × ByteArray)) :=
  paths.filterMapM fun (path : String) ↦ do
    match ← (IO.FS.readBinFile path).toBaseIO with
    | .ok bytes => return some (path, bytes)
    | .error _ => return none

/-- Waits for a number of seconds, one after the other. -/
def waitSeconds : Nat → IO Unit
  | 0 => return ()
  | count + 1 => do
    IO.sleep 1000
    waitSeconds count

/-- Waits for a number of milliseconds. -/
def waitMillis (millis : Nat) : IO Unit := do
  waitSeconds (millis / 1000)
  IO.sleep (UInt32.ofNat (millis % 1000))

/-- Steps a machine in real time until it crashes. -/
partial def keepBeating (filter : LogFilter) (machine : Machine) (world : World) : IO UInt32 := do
  match machine.step world with
  | .error _ => return UInt32.ofNat faultStatus
  | .ok outcome =>
    let entries := outcome.notice.toList.map (Notice.entry machine.label)
    IO.print (String.join (shownLines filter entries))
    (← IO.getStdout).flush
    if outcome.event = .crashed then return UInt32.ofNat crashStatus
    waitMillis ((outcome.world.clock.now - world.clock.now).nanos / 1000000)
    keepBeating filter outcome.machine outcome.world

/-- The child program. -/
def runChild (arguments : List String) : IO UInt32 := do
  let paths := match Child.grammar.parse arguments with
    | .ok parsed => candidates (Child.configPath parsed)
    | .error _ => []
  let files ← readFiles paths
  match Child.start (fun path ↦ files.lookup path) arguments with
  | .error outcome => conclude outcome
  | .ok startup =>
    let seed := UInt64.ofNat (← IO.monoNanosNow)
    let world := World.ofSeed seed
    let made := Machine.create startup.config startup.role ⟨startup.config.port, 0⟩
      (Identity.ofSeed seed).pid world.clock
    let creation := shownLines startup.filter [made.creation.entry made.label]
    IO.print (String.join (startup.output ++ creation))
    keepBeating startup.filter (made.withPalette startup.palette) world

/-- The end after a first argument that names no program. -/
def unknownProgram : Outcome :=
  ⟨usageStatus, [], ["Usage: heartbeat simulate|child [OPTIONS]\n"]⟩

/-- Runs the program that the first argument names. -/
def runNamed (arguments : List String) : IO UInt32 := do
  match arguments with
  | "simulate" :: rest => conclude (Simulation.run (UInt64.ofNat (← IO.monoNanosNow)) rest)
  | "child" :: rest => runChild rest
  | _ => conclude unknownProgram

end Heartbeat

/-- The program. -/
def main (arguments : List String) : IO UInt32 :=
  Heartbeat.runNamed arguments
