import Heartbeat.Proofs.Delivery
import Mathlib.Data.List.Induction
import Mathlib.Data.List.Infix

/-!
# A recorder that is shared

Attempts through any number of taps and interventions from outside come to one recorder in any
order (`World.performAll`). A `Moment` is what the earlier operations have made of the attempts, the
outage flag and the time, and it alone decides what becomes of an attempt (`Trial.Fails`). One
operation changes the record and the counter of failures as its moment says (`Account.of_perform`),
and so do all of them together (`World.account_performAll`). `World.recorder_accounts` is the
statement for a recorder from its first operation on.
-/

set_option autoImplicit false
set_option relaxedAutoImplicit false

namespace Heartbeat

/-! ### Operations -/

/-- What is done to a recorder and to the clock beside it. -/
inductive Operation
  | send (tap : Tap) (bytes : List UInt8)
  | outside (intervention : Intervention)

/-- An operation is an attempt to send. -/
def Operation.isSend : Operation → Bool
  | .send _ _ => true
  | .outside _ => false

namespace World

/-- The world after an operation. -/
def perform (world : World) : Operation → Except Fault World
  | .send tap bytes => .ok (world.send tap bytes).2
  | .outside intervention => world.undergo intervention

/-- The world after operations, one after the other. -/
def performAll (world : World) (operations : List Operation) : Except Fault World :=
  operations.foldlM perform world

theorem performAll_cons_eq_ok_iff {world last : World} {operation : Operation}
    {operations : List Operation} : world.performAll (operation :: operations) = .ok last ↔
      ∃ later, world.perform operation = .ok later ∧ later.performAll operations = .ok last := by
  unfold performAll
  rw [List.foldlM_cons]
  exact bind_eq_ok_iff

theorem performAll_append_eq_ok_iff {world last : World} {front back : List Operation} :
    world.performAll (front ++ back) = .ok last ↔
      ∃ later, world.performAll front = .ok later ∧ later.performAll back = .ok last := by
  unfold performAll
  rw [List.foldlM_append]
  exact bind_eq_ok_iff

end World

/-! ### Moments -/

/-- The number of attempts that were made, whether there is an outage, and the time. -/
structure Moment where
  attempts : ℕ
  outage : Bool
  nanos : ℕ

/-- An attempt and the moment that it comes at. -/
structure Trial where
  moment : Moment
  tap : Tap
  bytes : List UInt8

namespace Moment

/-- The moment before any operation, with a clock. -/
def opening (clock : Clock) : Moment :=
  ⟨0, false, clock.now.nanos⟩

/-- The moment after an operation. A span that is too long for the clock is cut to its lowest 64
bits. -/
def next (moment : Moment) : Operation → Moment
  | .send _ _ => { moment with attempts := moment.attempts + 1 }
  | .outside (.advance span) => { moment with nanos := moment.nanos + span.nanos % UInt64.size }
  | .outside (.setTime time) => { moment with nanos := time.now.nanos }
  | .outside (.setUnreachable unreachable) => { moment with outage := unreachable }
  | .outside (.draw _ _) => moment

/-- The moment after operations. -/
def after (moment : Moment) (operations : List Operation) : Moment :=
  operations.foldl next moment

/-- The attempts among operations, in order. -/
def trials (moment : Moment) : List Operation → List Trial
  | [] => []
  | .send tap bytes :: rest =>
    ⟨moment, tap, bytes⟩ :: (moment.next (.send tap bytes)).trials rest
  | .outside intervention :: rest => (moment.next (.outside intervention)).trials rest

theorem trials_append (moment : Moment) (front back : List Operation) :
    moment.trials (front ++ back) =
      moment.trials front ++ (moment.after front).trials back := by
  induction front generalizing moment with
  | nil => rfl
  | cons operation front ih =>
    cases operation with
    | send tap bytes => exact congrArg (_ :: ·) (ih _)
    | outside intervention => exact ih _

theorem length_trials (moment : Moment) (operations : List Operation) :
    (moment.trials operations).length = operations.countP Operation.isSend := by
  induction operations generalizing moment with
  | nil => rfl
  | cons operation operations ih =>
    cases operation with
    | send tap bytes =>
      rw [trials, List.length_cons, ih, List.countP_cons_of_pos rfl]
    | outside intervention =>
      rw [trials, ih, List.countP_cons_of_neg Bool.false_ne_true]

/-- The attempts are numbered one after the other. -/
theorem attempts_after (moment : Moment) (operations : List Operation) :
    (moment.after operations).attempts =
      moment.attempts + operations.countP Operation.isSend := by
  induction operations generalizing moment with
  | nil => rfl
  | cons operation operations ih =>
    refine (ih (moment.next operation)).trans ?_
    rcases operation with _ | (_ | _ | _ | _)
    · rw [List.countP_cons_of_pos rfl, Nat.add_comm _ 1, ← Nat.add_assoc]
      rfl
    all_goals
      rw [List.countP_cons_of_neg Bool.false_ne_true]
      rfl

end Moment

namespace Trial

/-- An attempt fails during an outage, and when its number is one that the tap lets fail. -/
def Fails (trial : Trial) : Prop :=
  trial.moment.outage = true ∨
    0 < trial.tap.failEvery.toNat ∧
      trial.tap.failEvery.toNat ∣ trial.moment.attempts + 1

instance : DecidablePred Fails := fun trial ↦
  inferInstanceAs (Decidable (trial.moment.outage = true ∨ 0 < trial.tap.failEvery.toNat ∧
    trial.tap.failEvery.toNat ∣ trial.moment.attempts + 1))

/-- What is recorded of an attempt that does not fail. -/
def datagram (trial : Trial) : Datagram :=
  ⟨⟨UInt64.ofNat trial.moment.nanos⟩, trial.bytes⟩

end Trial

namespace Moment

/-- The datagrams of the attempts among operations that do not fail. -/
def delivered (moment : Moment) (operations : List Operation) : List Datagram :=
  ((moment.trials operations).filter fun trial ↦ ¬ trial.Fails).map Trial.datagram

/-- The number of attempts among operations that fail. -/
def lost (moment : Moment) (operations : List Operation) : ℕ :=
  (moment.trials operations).countP fun trial ↦ trial.Fails

theorem delivered_append (moment : Moment) (front back : List Operation) :
    moment.delivered (front ++ back) =
      moment.delivered front ++ (moment.after front).delivered back := by
  unfold delivered
  rw [trials_append, List.filter_append, List.map_append]

theorem lost_append (moment : Moment) (front back : List Operation) :
    moment.lost (front ++ back) = moment.lost front + (moment.after front).lost back := by
  unfold lost
  rw [trials_append, List.countP_append]

/-- Every attempt fails or is delivered. -/
theorem length_delivered_add_lost (moment : Moment) (operations : List Operation) :
    (moment.delivered operations).length + moment.lost operations =
      operations.countP Operation.isSend := by
  unfold delivered lost
  rw [List.length_map, ← List.countP_eq_length_filter, ← moment.length_trials operations,
    List.length_eq_countP_add_countP fun trial ↦ decide trial.Fails, Nat.add_comm]
  simp only [decide_eq_true_eq]

end Moment

/-! ### One operation -/

/-- The moment that a world is at. -/
def World.moment (world : World) : Moment :=
  ⟨world.recorder.attempts.toNat, world.recorder.unreachable, world.clock.now.nanos⟩

namespace World

variable {world later : World} {operation : Operation} {tap : Tap} {bytes : List UInt8}

theorem toNat_attempts_succ (few : world.moment.attempts + 1 < UInt64.size) :
    (world.recorder.attempts + 1).toNat = world.moment.attempts + 1 := by
  rw [UInt64.toNat_add]
  exact Nat.mod_eq_of_lt few

/-- The recorder refuses an attempt exactly if it fails at its moment. -/
theorem refused_iff_fails (few : world.moment.attempts + 1 < UInt64.size) (bytes : List UInt8) :
    (world.recorder.unreachable || tap.drops (world.recorder.attempts + 1)) = true ↔
      Trial.Fails ⟨world.moment, tap, bytes⟩ := by
  have number := toNat_attempts_succ few
  have counted : 0 < (world.recorder.attempts + 1).toNat := by omega
  rw [Bool.or_eq_true, Tap.drops_iff counted, number]
  refine or_congr_right ⟨fun divides ↦ ⟨?_, divides⟩, And.right⟩
  exact Nat.pos_of_dvd_of_pos divides (Nat.succ_pos _)

/-- An attempt that fails changes the two counters and nothing else. -/
theorem send_of_fails (few : world.moment.attempts + 1 < UInt64.size)
    (fails : Trial.Fails ⟨world.moment, tap, bytes⟩) :
    world.send tap bytes = (.error tap.refusal, { world with
      recorder := { world.recorder with
        attempts := world.recorder.attempts + 1
        failures := world.recorder.failures + 1 } }) := by
  unfold send Tap.send
  dsimp only
  rw [if_pos ((refused_iff_fails few bytes).mpr fails)]

/-- An attempt that does not fail is recorded with the time and its bytes. -/
theorem send_of_not_fails (few : world.moment.attempts + 1 < UInt64.size)
    (arrives : ¬ Trial.Fails ⟨world.moment, tap, bytes⟩) :
    world.send tap bytes = (.ok bytes.length, { world with
      recorder := { world.recorder with
        attempts := world.recorder.attempts + 1
        sent := world.recorder.sent.push ⟨world.clock, bytes⟩ } }) := by
  unfold send Tap.send
  dsimp only
  rw [if_neg (mt (refused_iff_fails few bytes).mp arrives)]

/-- The datagram of an attempt has the time of the world. -/
theorem datagram_moment (world : World) (tap : Tap) (bytes : List UInt8) :
    Trial.datagram ⟨world.moment, tap, bytes⟩ = ⟨world.clock, bytes⟩ := by
  unfold Trial.datagram moment Clock.now
  rw [UInt64.ofNat_toNat]

end World

/-! ### All operations -/

/-- What operations have made of a world: its moment, its record and its counter of failures. -/
structure Account (world : World) (operations : List Operation) (last : World) : Prop where
  moment : last.moment = world.moment.after operations
  sent : last.recorder.sent.toList =
    world.recorder.sent.toList ++ world.moment.delivered operations
  failures : last.recorder.failures.toNat =
    world.recorder.failures.toNat + world.moment.lost operations

namespace Account

variable {world later last : World} {front back : List Operation}

theorem nil (world : World) : Account world [] world where
  moment := rfl
  sent := (List.append_nil _).symm
  failures := rfl

/-- Operations are accounted for one after the other. -/
theorem trans (first : Account world front later) (second : Account later back last) :
    Account world (front ++ back) last where
  moment := by
    rw [second.moment, first.moment]
    exact List.foldl_append.symm
  sent := by
    rw [second.sent, first.sent, first.moment, List.append_assoc, Moment.delivered_append]
  failures := by
    rw [second.failures, first.failures, first.moment, Nat.add_assoc, Moment.lost_append]

/-- An attempt that fails is counted as a failure, and an attempt that does not is recorded. -/
theorem of_send {tap : Tap} {bytes : List UInt8} (few : world.moment.attempts + 1 < UInt64.size)
    (fewer : world.recorder.failures.toNat ≤ world.moment.attempts) :
    Account world [.send tap bytes] (world.send tap bytes).2 := by
  by_cases fails : Trial.Fails ⟨world.moment, tap, bytes⟩
  · have another : (world.recorder.failures + 1).toNat = world.recorder.failures.toNat + 1 := by
      rw [UInt64.toNat_add]
      exact Nat.mod_eq_of_lt (Nat.lt_of_le_of_lt (Nat.succ_le_succ fewer) few)
    rw [World.send_of_fails few fails]
    refine ⟨?_, ?_, ?_⟩
    · exact congrArg (Moment.mk · _ _) (World.toNat_attempts_succ few)
    · simp [Moment.delivered, Moment.trials, fails]
    · simp [Moment.lost, Moment.trials, fails, another]
  · rw [World.send_of_not_fails few fails]
    refine ⟨?_, ?_, ?_⟩
    · exact congrArg (Moment.mk · _ _) (World.toNat_attempts_succ few)
    · simp [Moment.delivered, Moment.trials, fails, World.datagram_moment]
    · simp [Moment.lost, Moment.trials, fails]

/-- An intervention changes what decides about later attempts, and neither record nor counters. -/
theorem of_undergo {intervention : Intervention}
    (undergone : world.undergo intervention = .ok later) :
    Account world [.outside intervention] later := by
  cases intervention with
  | advance span =>
    obtain ⟨clock, advanced, rfl⟩ := World.advance_eq_ok_iff.mp undergone
    refine ⟨?_, (List.append_nil _).symm, rfl⟩
    exact congrArg (Moment.mk _ _) (Clock.nanos_now_of_advance advanced)
  | setTime time | setUnreachable unreachable | draw low high =>
    cases undergone
    exact ⟨rfl, (List.append_nil _).symm, rfl⟩

theorem of_perform {operation : Operation} (performed : world.perform operation = .ok later)
    (few : world.moment.attempts + [operation].countP Operation.isSend < UInt64.size)
    (fewer : world.recorder.failures.toNat ≤ world.moment.attempts) :
    Account world [operation] later := by
  cases operation with
  | send tap bytes =>
    cases performed
    exact of_send few fewer
  | outside intervention => exact of_undergo performed

/-- There are never more failures than attempts. -/
theorem failures_le (account : Account world front later)
    (fewer : world.recorder.failures.toNat ≤ world.moment.attempts) :
    later.recorder.failures.toNat ≤ later.moment.attempts := by
  have all := world.moment.length_delivered_add_lost front
  rw [account.failures, account.moment, Moment.attempts_after]
  omega

end Account

namespace World

/-- Operations in any order are accounted for, as long as the attempts can be counted. -/
theorem account_performAll {world last : World} {operations : List Operation}
    (performed : world.performAll operations = .ok last)
    (few : world.moment.attempts + operations.countP Operation.isSend < UInt64.size)
    (fewer : world.recorder.failures.toNat ≤ world.moment.attempts) :
    Account world operations last := by
  induction operations generalizing world with
  | nil =>
    cases performed
    exact .nil _
  | cons operation operations ih =>
    obtain ⟨later, first, rest⟩ := performAll_cons_eq_ok_iff.mp performed
    rw [List.countP_cons, Nat.add_comm _ (ite ..), ← Nat.add_assoc] at few
    have account : Account world [operation] later := by
      refine .of_perform first ?_ fewer
      rw [List.countP_singleton]
      exact Nat.lt_of_le_of_lt (Nat.le_add_right _ _) few
    have attempts : later.moment.attempts =
        world.moment.attempts + if operation.isSend then 1 else 0 := by
      rw [account.moment, Moment.attempts_after, List.countP_singleton]
    exact account.trans (ih rest (attempts ▸ few) (account.failures_le fewer))

/-- An operation comes to an end exactly if the clock can hold the time after it. -/
theorem exists_perform_iff {world : World} {operation : Operation} :
    (∃ later, world.perform operation = .ok later) ↔
      (world.moment.next operation).nanos < UInt64.size := by
  rcases operation with ⟨tap, bytes⟩ | (span | time | unreachable | ⟨low, high⟩)
  · exact iff_of_true ⟨_, rfl⟩ world.clock.nanos_now_lt
  · constructor
    · rintro ⟨later, advanced⟩
      obtain ⟨clock, advanced, -⟩ := advance_eq_ok_iff.mp advanced
      exact lt_of_eq_of_lt (Clock.nanos_now_of_advance advanced).symm clock.nanos_now_lt
    · intro fits
      cases outcome : world.advance span with
      | ok later => exact ⟨later, outcome⟩
      | error fault => exact absurd fits (Nat.not_lt.mpr (advance_eq_error_iff.mp outcome).1)
  · exact iff_of_true ⟨_, rfl⟩ time.nanos_now_lt
  · exact iff_of_true ⟨_, rfl⟩ world.clock.nanos_now_lt
  · exact iff_of_true ⟨_, rfl⟩ world.clock.nanos_now_lt

end World

/-! ### A recorder from its beginning -/

/-- What becomes of an attempt in a world: a refusal that is counted, or a datagram at the end of
the record. -/
structure Trial.Settled (trial : Trial) (reached : World) : Prop where
  refused : trial.Fails →
    (reached.send trial.tap trial.bytes).1 = .error trial.tap.refusal ∧
    (reached.send trial.tap trial.bytes).2.recorder.sent = reached.recorder.sent ∧
    (reached.send trial.tap trial.bytes).2.recorder.failures.toNat =
      reached.recorder.failures.toNat + 1
  delivered : ¬ trial.Fails →
    (reached.send trial.tap trial.bytes).1 = .ok trial.bytes.length ∧
    (reached.send trial.tap trial.bytes).2.recorder.sent =
      reached.recorder.sent.push trial.datagram ∧
    (reached.send trial.tap trial.bytes).2.recorder.failures = reached.recorder.failures

namespace World

variable {start last : World} {operations : List Operation}

theorem settled {world : World} (tap : Tap) (bytes : List UInt8)
    (few : world.moment.attempts + 1 < UInt64.size)
    (fewer : world.recorder.failures.toNat ≤ world.moment.attempts) :
    Trial.Settled ⟨world.moment, tap, bytes⟩ world where
  refused fails := by
    refine ⟨by rw [send_of_fails few fails], by rw [send_of_fails few fails], ?_⟩
    have account : Account world [.send tap bytes] (world.send tap bytes).2 := .of_send few fewer
    rw [account.failures]
    simp [Moment.lost, Moment.trials, fails]
  delivered arrives := by
    rw [send_of_not_fails few arrives, datagram_moment]
    exact ⟨rfl, rfl, rfl⟩

theorem moment_of_fresh (fresh : start.recorder = Recorder.empty) :
    start.moment = .opening start.clock := by
  unfold moment
  rw [fresh]
  rfl

/-- Some first operations are accounted for. -/
theorem account_of_fresh (fresh : start.recorder = Recorder.empty)
    (few : operations.countP Operation.isSend < UInt64.size) {before : List Operation}
    (first : before <+: operations) {reached : World}
    (performed : start.performAll before = .ok reached) : Account start before reached := by
  refine account_performAll performed ?_ ?_
  · rw [moment_of_fresh fresh]
    exact Nat.lt_of_le_of_lt (Nat.zero_add _ ▸ first.sublist.countP_le) few
  · rw [fresh]
    exact Nat.zero_le _

/-- Operations come to an end exactly if the clock can hold the time after each of them. -/
theorem exists_performAll_iff (fresh : start.recorder = Recorder.empty)
    (few : operations.countP Operation.isSend < UInt64.size) :
    (∃ last, start.performAll operations = .ok last) ↔
      ∀ before, before <+: operations →
        ((Moment.opening start.clock).after before).nanos < UInt64.size := by
  rw [← moment_of_fresh fresh]
  constructor
  · rintro ⟨last, performed⟩ before ⟨rest, rfl⟩
    obtain ⟨reached, first, -⟩ := performAll_append_eq_ok_iff.mp performed
    have account := account_of_fresh fresh few (List.prefix_append before rest) first
    rw [← account.moment]
    exact reached.clock.nanos_now_lt
  · intro fits
    induction operations using List.reverseRecOn with
    | nil => exact ⟨start, rfl⟩
    | append_singleton operations operation ih =>
      have front : operations <+: operations ++ [operation] := List.prefix_append ..
      have fewer : operations.countP Operation.isSend < UInt64.size :=
        Nat.lt_of_le_of_lt front.sublist.countP_le few
      obtain ⟨reached, performed⟩ := ih fewer fun before first ↦ fits before (first.trans front)
      have account := account_of_fresh fresh few front performed
      have whole := fits _ (List.prefix_refl _)
      rw [Moment.after, List.foldl_concat, ← Moment.after, ← account.moment] at whole
      obtain ⟨last, step⟩ := exists_perform_iff.mpr whole
      exact ⟨last, performAll_append_eq_ok_iff.mpr
        ⟨reached, performed, performAll_cons_eq_ok_iff.mpr ⟨last, step, rfl⟩⟩⟩

/-- Whatever comes to a new recorder and its clock, and in whatever order: every attempt is settled
as its moment says, the record has the datagrams of the attempts that do not fail, in order, and the
failures are the other attempts. What was recorded once is never rewritten. Only the end of the
clock can keep operations from coming to an end. -/
theorem recorder_accounts (fresh : start.recorder = Recorder.empty)
    (few : operations.countP Operation.isSend < UInt64.size) :
    ((∃ last, start.performAll operations = .ok last) ↔
      ∀ before, before <+: operations →
        ((Moment.opening start.clock).after before).nanos < UInt64.size) ∧
    ∀ last, start.performAll operations = .ok last →
      last.recorder.sent.toList = (Moment.opening start.clock).delivered operations ∧
      last.recorder.failures.toNat = (Moment.opening start.clock).lost operations ∧
      last.recorder.sent.size + last.recorder.failures.toNat =
        operations.countP Operation.isSend ∧
      (∀ before tap bytes after, operations = before ++ .send tap bytes :: after →
        ∃ reached, start.performAll before = .ok reached ∧
          Trial.Settled ⟨(Moment.opening start.clock).after before, tap, bytes⟩ reached) ∧
      ∀ before, before <+: operations →
        ∃ reached, start.performAll before = .ok reached ∧
          reached.recorder.sent.toList <+: last.recorder.sent.toList := by
  refine ⟨exists_performAll_iff fresh few, fun last performed ↦ ?_⟩
  rw [← moment_of_fresh fresh]
  have account := account_of_fresh fresh few (List.prefix_refl _) performed
  have sent : last.recorder.sent.toList = start.moment.delivered operations := by
    rw [account.sent, fresh]
    rfl
  have failures : last.recorder.failures.toNat = start.moment.lost operations := by
    rw [account.failures, fresh]
    exact Nat.zero_add _
  refine ⟨sent, failures, ?_, ?_, ?_⟩
  · rw [failures, ← Array.length_toList, sent, Moment.length_delivered_add_lost]
  · rintro before tap bytes after rfl
    obtain ⟨reached, first, -⟩ := performAll_append_eq_ok_iff.mp performed
    have account := account_of_fresh fresh few (List.prefix_append ..) first
    refine ⟨reached, first, ?_⟩
    rw [← account.moment]
    refine settled tap bytes ?_ (account.failures_le ?_)
    · rw [account.moment, moment_of_fresh fresh, Moment.attempts_after, Moment.opening,
        Nat.zero_add]
      rw [List.countP_append, List.countP_cons_of_pos rfl] at few
      omega
    · rw [fresh]
      exact Nat.zero_le _
  · rintro before ⟨rest, rfl⟩
    obtain ⟨reached, first, -⟩ := performAll_append_eq_ok_iff.mp performed
    have account := account_of_fresh fresh few (List.prefix_append before rest) first
    refine ⟨reached, first, ?_⟩
    rw [sent, Moment.delivered_append, account.sent, fresh]
    exact List.prefix_append ..

/-- Two taps with one loss in two, an outage over a loss, and a clock that is set back. -/
def overlappingOperations : List Operation :=
  [.send ⟨9, 2⟩ [97], .outside (.advance ⟨3⟩), .send ⟨7, 2⟩ [98], .outside (.setUnreachable true),
    .send ⟨9, 2⟩ [99], .send ⟨7, 2⟩ [100], .outside (.setUnreachable false),
    .outside (.setTime ⟨1⟩), .send ⟨9, 2⟩ [101]]

theorem recorder_accounts_overlapping :
    ∃ last, (World.ofSeed 1).performAll overlappingOperations = .ok last ∧
      last.recorder.sent.toList = [⟨⟨0⟩, [97]⟩, ⟨⟨1⟩, [101]⟩] ∧
      last.recorder.failures.toNat = 3 := by
  have accounts := @recorder_accounts (World.ofSeed 1) overlappingOperations rfl (by decide)
  have short : ∀ before ∈ overlappingOperations.inits,
      ((Moment.opening Clock.start).after before).nanos < UInt64.size := by decide
  obtain ⟨last, performed⟩ := accounts.1.mpr fun before first ↦
    short before ((List.mem_inits _ _).mpr first)
  obtain ⟨sent, failures, -⟩ := accounts.2 last performed
  exact ⟨last, performed, sent.trans (by decide), failures.trans (by decide)⟩

end World

end Heartbeat
