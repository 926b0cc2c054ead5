/-!
# Faults

A fault ends a computation without an answer. There are three: the clock would pass its last
nanosecond, a number of seconds is no span of time, and a list is asked for a place that it cannot
have.
-/

set_option autoImplicit false
set_option relaxedAutoImplicit false

namespace Heartbeat

/-- Why a computation ends without an answer. -/
inductive Fault
  | clockOverflow
  | spanOutOfRange
  | placeOutOfRange
deriving DecidableEq

variable {ε α β γ : Type}

/-- A mapped computation has a value exactly when the computation has one. -/
theorem map_eq_ok_iff {computation : Except ε α} {f : α → β} {value : β} :
    computation.map f = .ok value ↔ ∃ first, computation = .ok first ∧ f first = value := by
  cases computation <;> simp [Except.map]

/-- A mapped computation fails exactly as the computation does. -/
theorem map_eq_error_iff {computation : Except ε α} {f : α → β} {error : ε} :
    computation.map f = .error error ↔ computation = .error error := by
  cases computation <;> simp [Except.map]

/-- Mapping twice is mapping once. -/
theorem map_twice (computation : Except ε α) (f : α → β) (g : β → γ) :
    (computation.map f).map g = computation.map fun value ↦ g (f value) := by
  cases computation <;> rfl

/-- A chain of two computations has a value exactly when both have one. -/
theorem bind_eq_ok_iff {computation : Except ε α} {next : α → Except ε β} {value : β} :
    computation.bind next = .ok value ↔
      ∃ first, computation = .ok first ∧ next first = .ok value := by
  cases computation <;> simp [Except.bind]

/-- A computation that is known to have a value has one. -/
theorem exists_of_isOk {computation : Except ε α} (possible : computation.isOk = true) :
    ∃ value, computation = .ok value := by
  cases computation with
  | error error => cases possible
  | ok value => exact ⟨value, rfl⟩

end Heartbeat
