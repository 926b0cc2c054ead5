import Heartbeat.Proofs.DrawRange
import Mathlib.Data.Nat.Log
import Mathlib.Order.Lattice.Nat

/-!
# How a draw is made

A draw between two bounds takes values until one is accepted (`Keystream.uniform?`). All of it is
machine arithmetic: the number of outcomes wraps to zero for the whole range of words, the zone of
the accepted values is a shift minus one, and the product has two words. Here the same is said in
numbers that do not wrap. `Keystream.spread` is the number of outcomes, up to `2 ^ 64`, and
`Keystream.Accepts` the test; the shift loses no bit, because it moves the first bit of the number
to the highest of a word (`toNat_acceptedZone`).

`Keystream.uniform?_of_firstAccepted` gives the draw at the first accepted value, as a sum without a
remainder, and `Keystream.isSome_uniform?_iff` says that nothing but a missing accepted value keeps
a draw from ending: the keystream repeats, so the bound on the number of values costs nothing.
-/

set_option autoImplicit false
set_option relaxedAutoImplicit false

namespace Heartbeat.Keystream

/-! ### Positions -/

/-- The value that comes after a number of others. -/
def peek (stream : Keystream) (skipped : ℕ) : UInt64 :=
  value stream.key (stream.taken + skipped)

/-- The keystream without a number of values. -/
def drop (stream : Keystream) (count : ℕ) : Keystream :=
  { stream with taken := stream.taken + count }

theorem next_eq (stream : Keystream) : stream.next = (stream.peek 0, stream.drop 1) := rfl

theorem peek_drop (stream : Keystream) (count skipped : ℕ) :
    (stream.drop count).peek skipped = stream.peek (count + skipped) := by
  unfold peek drop
  rw [Nat.add_assoc]

theorem drop_drop (stream : Keystream) (first second : ℕ) :
    (stream.drop first).drop second = stream.drop (first + second) := by
  unfold drop
  rw [Nat.add_assoc]

/-- The keystream repeats. -/
theorem peek_add_period (stream : Keystream) (skipped : ℕ) :
    stream.peek (skipped + period) = stream.peek skipped := by
  unfold peek
  rw [← Nat.add_assoc]
  generalize stream.taken + skipped = position
  have counter : UInt64.ofNat ((position + period) / 8) = UInt64.ofNat (position / 8) := by
    rw [← UInt64.toNat_inj]
    unfold period
    simp only [UInt64.toNat_ofNat']
    omega
  have place : (position + period) % 8 = position % 8 := by
    unfold period
    omega
  unfold value
  simp only [counter, place]

/-- Whatever the keystream holds, it holds within a period. -/
theorem exists_peek_lt_period {holds : UInt64 → Prop} {stream : Keystream} {skipped : ℕ}
    (held : holds (stream.peek skipped)) : ∃ early < period, holds (stream.peek early) := by
  refine ⟨skipped % period, Nat.mod_lt _ (by decide), ?_⟩
  have repeats (rounds : ℕ) :
      stream.peek (skipped % period + period * rounds) = stream.peek (skipped % period) := by
    induction rounds with
    | zero => rfl
    | succ rounds ih => rw [Nat.mul_succ, ← Nat.add_assoc, peek_add_period, ih]
  rwa [← repeats (skipped / period), Nat.mod_add_div]

/-! ### The test of a value -/

/-- The number of values between two bounds, both included. -/
def spread (low high : UInt64) : ℕ :=
  high.toNat + 1 - low.toNat

/-- A value is accepted for a number of outcomes if the low word of their product is below that
number moved to the highest bits of a word. -/
def Accepts (outcomes : ℕ) (value : UInt64) : Prop :=
  value.toNat * outcomes % 2 ^ 64 < outcomes * 2 ^ (63 - outcomes.log2)

/-- The first accepted value comes after a number of others. -/
structure FirstAccepted (outcomes : ℕ) (stream : Keystream) (skipped : ℕ) : Prop where
  rejected : ∀ earlier < skipped, ¬ Accepts outcomes (stream.peek earlier)
  accepted : Accepts outcomes (stream.peek skipped)

theorem exists_firstAccepted_iff {outcomes : ℕ} {stream : Keystream} :
    (∃ skipped, FirstAccepted outcomes stream skipped) ↔
      ∃ skipped, Accepts outcomes (stream.peek skipped) := by
  classical
  refine ⟨fun ⟨skipped, first⟩ ↦ ⟨skipped, first.accepted⟩, fun found ↦ ?_⟩
  exact ⟨Nat.find found, fun _ ↦ Nat.find_min found, Nat.find_spec found⟩

/-- The first accepted value comes within a period. -/
theorem FirstAccepted.lt_period {outcomes : ℕ} {stream : Keystream} {skipped : ℕ}
    (first : FirstAccepted outcomes stream skipped) : skipped < period := by
  obtain ⟨early, within, accepted⟩ := exists_peek_lt_period first.accepted
  by_contra late
  exact first.rejected early (by omega) accepted

/-- Every value is accepted for all words as outcomes. -/
theorem accepts_whole (value : UInt64) : Accepts (2 ^ 64) value := by
  unfold Accepts
  rw [Nat.mul_mod_left]
  exact Nat.mul_pos (by decide) (Nat.two_pow_pos _)

/-- The zone of a number of outcomes loses no bit: it is one less than the number moved to the
highest bits of a word. -/
theorem toNat_acceptedZone {outcomes : UInt64} (positive : 0 < outcomes.toNat) :
    (acceptedZone outcomes).toNat + 1 = outcomes.toNat * 2 ^ (63 - outcomes.toNat.log2) := by
  have bits : outcomes.toNat.log2 < 64 :=
    (Nat.log2_lt positive.ne').mpr outcomes.toNat_lt
  have amount : (63 - outcomes.log2).toNat = 63 - outcomes.toNat.log2 :=
    UInt64.toNat_sub_of_le _ _ (UInt64.le_iff_toNat_le.mpr (Nat.le_of_lt_succ bits))
  have fits : outcomes.toNat * 2 ^ (63 - outcomes.toNat.log2) < 2 ^ 64 := by
    calc outcomes.toNat * 2 ^ (63 - outcomes.toNat.log2)
        < 2 ^ (outcomes.toNat.log2 + 1) * 2 ^ (63 - outcomes.toNat.log2) :=
          Nat.mul_lt_mul_of_pos_right Nat.lt_log2_self (Nat.two_pow_pos _)
      _ = 2 ^ 64 := by
          rw [← Nat.pow_add]
          congr 1
          omega
  have moved : (outcomes <<< (63 - outcomes.log2)).toNat =
      outcomes.toNat * 2 ^ (63 - outcomes.toNat.log2) := by
    rw [UInt64.toNat_shiftLeft, amount,
      Nat.mod_eq_of_lt (show 63 - outcomes.toNat.log2 < 64 by omega), Nat.shiftLeft_eq,
      Nat.mod_eq_of_lt fits]
  have nonzero : 0 < outcomes.toNat * 2 ^ (63 - outcomes.toNat.log2) :=
    Nat.mul_pos positive (Nat.two_pow_pos _)
  unfold acceptedZone
  rw [UInt64.toNat_sub_of_le _ _ (UInt64.le_iff_toNat_le.mpr (moved ▸ nonzero)), moved]
  exact Nat.sub_add_cancel nonzero

/-- The two words of a product are its quotient and its remainder by the number of words. -/
theorem toNat_wideProduct (left right : UInt64) :
    (wideProduct left right).1.toNat = left.toNat * right.toNat / 2 ^ 64 ∧
      (wideProduct left right).2.toNat = left.toNat * right.toNat % 2 ^ 64 := by
  have quotient : left.toNat * right.toNat / 2 ^ 64 < 2 ^ 64 :=
    Nat.div_lt_of_lt_mul (Nat.mul_lt_mul'' left.toNat_lt right.toNat_lt)
  exact ⟨UInt64.toNat_ofNat_of_lt' quotient,
    UInt64.toNat_ofNat_of_lt' (Nat.mod_lt _ (Nat.two_pow_pos 64))⟩

/-- The machine accepts what the test accepts. -/
theorem snd_wideProduct_le_iff {outcomes : UInt64} (positive : 0 < outcomes.toNat)
    (value : UInt64) :
    (wideProduct value outcomes).2 ≤ acceptedZone outcomes ↔ Accepts outcomes.toNat value := by
  unfold Accepts
  rw [UInt64.le_iff_toNat_le, (toNat_wideProduct value outcomes).2, ← toNat_acceptedZone positive,
    Nat.lt_succ_iff]

/-! ### Taking values until one is accepted -/

section Sampling

variable {outcomes : UInt64} {stream : Keystream}

theorem drawBelow?_of_firstAccepted (positive : 0 < outcomes.toNat) {fuel skipped : ℕ}
    (first : FirstAccepted outcomes.toNat stream skipped) (enough : skipped < fuel) :
    drawBelow? fuel outcomes stream =
      some ((wideProduct (stream.peek skipped) outcomes).1, stream.drop (skipped + 1)) := by
  induction fuel generalizing stream skipped with
  | zero => exact absurd enough (Nat.not_lt_zero _)
  | succ fuel ih =>
    unfold drawBelow?
    rw [next_eq]
    dsimp only
    cases skipped with
    | zero => exact if_pos ((snd_wideProduct_le_iff positive _).mpr first.accepted)
    | succ skipped =>
      have rejected := first.rejected 0 skipped.succ_pos
      rw [if_neg (mt (snd_wideProduct_le_iff positive _).mp rejected)]
      have later : FirstAccepted outcomes.toNat (stream.drop 1) skipped := by
        refine ⟨fun earlier before ↦ ?_, ?_⟩
        · rw [peek_drop]
          exact first.rejected (1 + earlier) (by omega)
        · rw [peek_drop, Nat.add_comm]
          exact first.accepted
      rw [ih later (by omega), peek_drop, drop_drop, Nat.add_comm 1 skipped,
        Nat.add_comm 1 (skipped + 1)]

theorem exists_accepts_of_drawBelow? (positive : 0 < outcomes.toNat) {fuel : ℕ}
    {drawn : UInt64 × Keystream} (ended : drawBelow? fuel outcomes stream = some drawn) :
    ∃ skipped, Accepts outcomes.toNat (stream.peek skipped) := by
  induction fuel generalizing stream with
  | zero => cases ended
  | succ fuel ih =>
    unfold drawBelow? at ended
    rw [next_eq] at ended
    dsimp only at ended
    split at ended
    · next accepted => exact ⟨0, (snd_wideProduct_le_iff positive _).mp accepted⟩
    · obtain ⟨skipped, accepted⟩ := ih ended
      rw [peek_drop] at accepted
      exact ⟨1 + skipped, accepted⟩

end Sampling

/-! ### Draws between two bounds -/

section Draws

variable {low high : UInt64} {stream : Keystream}

theorem spread_mem_range (bounded : low < high) :
    2 ≤ spread low high ∧ spread low high ≤ 2 ^ 64 := by
  have ordered : low.toNat < high.toNat := UInt64.lt_iff_toNat_lt.mp bounded
  have word := high.toNat_lt
  unfold spread
  omega

/-- The machine counts the outcomes as they are, and all words as none. -/
theorem toNat_outcomes_eq_spread (bounded : low < high) :
    (high - low + 1).toNat = spread low high % 2 ^ 64 := by
  have ordered : low.toNat < high.toNat := UInt64.lt_iff_toNat_lt.mp bounded
  rw [toNat_outcomes ordered.le]
  unfold spread
  congr 1
  omega

theorem outcomes_eq_zero_iff (bounded : low < high) :
    high - low + 1 = 0 ↔ spread low high = 2 ^ 64 := by
  have few := spread_mem_range bounded
  rw [← UInt64.toNat_inj, toNat_outcomes_eq_spread bounded]
  show spread low high % 2 ^ 64 = 0 ↔ _
  omega

theorem toNat_outcomes_of_ne_zero (bounded : low < high) (partly : high - low + 1 ≠ 0) :
    (high - low + 1).toNat = spread low high ∧ 0 < (high - low + 1).toNat := by
  have few := spread_mem_range bounded
  have small : spread low high < 2 ^ 64 :=
    few.2.lt_of_ne (mt (outcomes_eq_zero_iff bounded).mpr partly)
  rw [toNat_outcomes_eq_spread bounded, Nat.mod_eq_of_lt small]
  exact ⟨rfl, by omega⟩

/-- The outcome of a value can be added to the lower bound without passing the upper one. -/
theorem add_outcome_le (bounded : low < high) (value : UInt64) :
    low.toNat + value.toNat * spread low high / 2 ^ 64 ≤ high.toNat := by
  have ordered : low.toNat < high.toNat := UInt64.lt_iff_toNat_lt.mp bounded
  have positive : 0 < spread low high := by have := spread_mem_range bounded; omega
  have outcome : value.toNat * spread low high / 2 ^ 64 < spread low high :=
    Nat.div_lt_of_lt_mul (Nat.mul_lt_mul_of_pos_right value.toNat_lt positive)
  unfold spread at outcome ⊢
  omega

/-- The draw at the first accepted value. -/
theorem uniform?_of_firstAccepted (bounded : low < high) {skipped : ℕ}
    (first : FirstAccepted (spread low high) stream skipped) :
    ∃ drawn, stream.uniform? low high = some drawn ∧
      drawn.1.toNat = low.toNat + (stream.peek skipped).toNat * spread low high / 2 ^ 64 ∧
      drawn.2 = stream.drop (skipped + 1) := by
  unfold uniform?
  dsimp only
  by_cases full : high - low + 1 = 0
  · -- Among all words the first value is accepted and is the outcome itself.
    have whole := (outcomes_eq_zero_iff bounded).mp full
    obtain rfl : skipped = 0 := by
      by_contra later
      refine first.rejected 0 (Nat.pos_of_ne_zero later) ?_
      rw [whole]
      exact accepts_whole _
    have least : low.toNat = 0 := by
      have word := high.toNat_lt
      unfold spread at whole
      omega
    refine ⟨_, if_pos full, ?_, rfl⟩
    rw [whole, least, Nat.mul_div_cancel _ (Nat.two_pow_pos 64), Nat.zero_add]
    rfl
  · obtain ⟨outcomes, positive⟩ := toNat_outcomes_of_ne_zero bounded full
    rw [if_neg full, drawBelow?_of_firstAccepted positive (outcomes ▸ first) first.lt_period]
    refine ⟨_, rfl, ?_, rfl⟩
    have most := add_outcome_le bounded (stream.peek skipped)
    have word := high.toNat_lt
    rw [UInt64.toNat_add, (toNat_wideProduct _ _).1, outcomes]
    exact Nat.mod_eq_of_lt (by omega)

/-- A draw ends exactly if some value of the keystream is accepted. -/
theorem isSome_uniform?_iff (bounded : low < high) :
    (stream.uniform? low high).isSome = true ↔
      ∃ skipped, Accepts (spread low high) (stream.peek skipped) := by
  constructor
  · intro ended
    by_cases full : high - low + 1 = 0
    · rw [(outcomes_eq_zero_iff bounded).mp full]
      exact ⟨0, accepts_whole _⟩
    · obtain ⟨outcomes, positive⟩ := toNat_outcomes_of_ne_zero bounded full
      unfold uniform? at ended
      dsimp only at ended
      rw [if_neg full, Option.isSome_map, Option.isSome_iff_exists] at ended
      obtain ⟨drawn, ended⟩ := ended
      rw [← outcomes]
      exact exists_accepts_of_drawBelow? positive ended
  · intro found
    obtain ⟨skipped, first⟩ := exists_firstAccepted_iff.mpr found
    obtain ⟨drawn, ended, -⟩ := uniform?_of_firstAccepted bounded first
    rw [ended]
    rfl

end Draws

end Heartbeat.Keystream
