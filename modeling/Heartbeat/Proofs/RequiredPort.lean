import Heartbeat.Proofs.ApplicationSections
import Heartbeat.Proofs.LayoutAgreement

/-!
# Only the port is required

Whether an instance is resolved depends on nothing but the answer for the port of the watchdog: a
whole number from 1 to 65535 is enough, another number is an error with its decimal form, and any
other error is passed on (`readPort_eq_ok_iff`, `readPort_eq_error_iff`). No other key, no section,
no index and no layout can make `resolve` fail.

`resolve_outcome` states this for all settings, with what the layout `auto` stands for.
-/

set_option autoImplicit false
set_option relaxedAutoImplicit false

namespace Heartbeat

open Heartbeat.Settings Heartbeat.Text

variable {accessor : Accessor}

/-! ### The port -/

theorem readPort_eq_ok_iff {port : UInt16} : readPort accessor = .ok port ↔
    port ≠ 0 ∧ accessor.getInt watchdogSection portKey = .ok (Int64.ofNat port.toNat) := by
  constructor
  · intro required
    unfold readPort at required
    cases answer : accessor.getInt watchdogSection portKey with
    | error error =>
      rw [answer] at required
      cases required
    | ok number =>
      rw [answer] at required
      dsimp only at required
      split_ifs at required with bounds
      cases required
      have most : number.toInt.toNat < 2 ^ 16 := by omega
      have value : (UInt16.ofNat number.toInt.toNat).toNat = number.toInt.toNat :=
        UInt16.toNat_ofNat_of_lt' most
      constructor
      · intro zero
        rw [zero] at value
        have none : number.toInt.toNat = 0 := value.symm
        omega
      · rw [value, Except.ok.injEq, ← Int64.toInt_inj, Int64.toInt_ofNat_of_lt (by omega)]
        omega
  · rintro ⟨positive, found⟩
    exact readPort_eq positive found

theorem readPort_eq_error_iff {error : ConfigError} : readPort accessor = .error error ↔
    accessor.getInt watchdogSection portKey = .error error ∨
      ∃ number, accessor.getInt watchdogSection portKey = .ok number ∧
        ¬ (1 ≤ number.toInt ∧ number.toInt ≤ 65535) ∧
        error = .invalidValue watchdogSection portKey (toString number.toInt) := by
  unfold readPort
  cases accessor.getInt watchdogSection portKey with
  | error other => simp
  | ok number =>
    dsimp only
    split_ifs with bounds
    · refine iff_of_false nofun ?_
      rintro (failed | ⟨other, same, outside, -⟩)
      · cases failed
      · cases same
        exact outside bounds
    · constructor
      · intro failed
        cases failed
        exact .inr ⟨number, rfl, bounds, rfl⟩
      · rintro (failed | ⟨other, same, -, rfl⟩)
        · cases failed
        · cases same
          rfl

/-! ### What depends on the port alone -/

section Outcome

variable {index : UInt32} {layout : Layout}

/-- Resolving fails as reading the port does. -/
theorem resolve_eq_error_iff {error : ConfigError} :
    resolve accessor index layout = .error error ↔ readPort accessor = .error error := by
  unfold resolve
  cases readPort accessor with
  | ok port => simp [Except.map]
  | error other => simp [Except.map]

/-- The port of an instance is the one that was read. -/
theorem map_port_resolve (accessor : Accessor) (index : UInt32) (layout : Layout) :
    (resolve accessor index layout).map (fun resolved ↦ resolved.config.port) =
      readPort accessor := by
  unfold resolve
  cases readPort accessor <;> rfl

/-- Resolving depends on the layout only through the effective one. -/
theorem resolve_congr {other : Layout}
    (same : layout.effective accessor = other.effective accessor) :
    resolve accessor index layout = resolve accessor index other := by
  unfold resolve
  rw [same]

/-- An instance is resolved with a port exactly if that port was read. -/
theorem exists_resolve_iff {port : UInt16} :
    (∃ resolved, resolve accessor index layout = .ok resolved ∧ resolved.config.port = port) ↔
      readPort accessor = .ok port := by
  rw [← map_port_resolve accessor index layout]
  cases resolve accessor index layout <;> simp [Except.map]

/-- An instance is resolved in a layout that is settled. -/
theorem layout_ne_auto_of_resolve {resolved : Resolved}
    (made : resolve accessor index layout = .ok resolved) : resolved.layout ≠ .auto := by
  unfold resolve at made
  cases required : readPort accessor with
  | error error =>
    rw [required] at made
    cases made
  | ok port =>
    rw [required] at made
    cases made
    exact layout.effective_ne_auto accessor

end Outcome

/-- Resolving fails exactly if the port of the watchdog cannot be read, with the error that tells
so, or is not in range, with its decimal form, and an instance that is resolved has that port.
Nothing else in the settings, no index and no layout makes a difference to that. The layout `auto`
is that of sections if the name of any section begins with the mark in any ASCII case, and the flat
one otherwise. The name of an application section can always be cut where the mark ends. -/
theorem resolve_outcome (accessor : Accessor) (index : UInt32) (layout : Layout) :
    (∀ error, resolve accessor index layout = .error error ↔
      accessor.getInt watchdogSection portKey = .error error ∨
        ∃ number, accessor.getInt watchdogSection portKey = .ok number ∧
          ¬ (1 ≤ number.toInt ∧ number.toInt ≤ 65535) ∧
          error = .invalidValue watchdogSection portKey (toString number.toInt)) ∧
    (∀ port, (∃ resolved, resolve accessor index layout = .ok resolved ∧
        resolved.config.port = port) ↔
      port ≠ 0 ∧ accessor.getInt watchdogSection portKey = .ok (Int64.ofNat port.toNat)) ∧
    (∀ other otherIndex otherLayout,
      other.getInt watchdogSection portKey = accessor.getInt watchdogSection portKey →
      (resolve other otherIndex otherLayout).map (fun resolved ↦ resolved.config.port) =
        (resolve accessor index layout).map fun resolved ↦ resolved.config.port) ∧
    (∀ resolved, resolve accessor index layout = .ok resolved → resolved.layout ≠ .auto) ∧
    ((∃ sectionName ∈ accessor.sections, ∃ mark rest, sectionName = mark ++ rest ∧
        sameIgnoringCase mark applicationMark = true) →
      resolve accessor index .auto = resolve accessor index .sections) ∧
    ((¬ ∃ sectionName ∈ accessor.sections, ∃ mark rest, sectionName = mark ++ rest ∧
        sameIgnoringCase mark applicationMark = true) →
      resolve accessor index .auto = resolve accessor index .flat) ∧
    ∀ sectionName, isApplication sectionName = true ↔
      ∃ boundary : sectionName.Pos, boundary.offset.byteIdx = applicationMark.utf8ByteSize ∧
        sameIgnoringCase (sectionName.sliceTo boundary).copy applicationMark = true ∧
        (sectionName.sliceFrom boundary).copy = applicationName sectionName := by
  simp only [← isApplication_iff_exists_append]
  refine ⟨fun error ↦ ?_, fun port ↦ ?_, fun other otherIndex otherLayout same ↦ ?_,
    fun resolved ↦ layout_ne_auto_of_resolve, fun marked ↦ ?_, fun unmarked ↦ ?_,
    fun sectionName ↦ isApplication_iff_exists_pos⟩
  · rw [resolve_eq_error_iff, readPort_eq_error_iff]
  · rw [exists_resolve_iff, readPort_eq_ok_iff]
  · rw [map_port_resolve, map_port_resolve]
    unfold readPort
    rw [same]
  · exact resolve_congr (Layout.effective_auto_of_exists marked)
  · push Not at unmarked
    exact resolve_congr (Layout.effective_auto_of_forall unmarked)

end Heartbeat
