import Heartbeat.Keystream

/-!
# The range of a draw

A draw between two bounds lies between them (`Keystream.draw_mem_range`), whatever the keystream
holds. A value of 64 bits times the number of outcomes has a high word below that number
(`Keystream.fst_wideProduct_lt`), so the outcome that a draw accepts can be added to the lower bound
without passing the upper one, and without an overflow.
-/

set_option autoImplicit false
set_option relaxedAutoImplicit false

namespace Heartbeat.Keystream

/-- The high word of a product is below the second factor. -/
theorem fst_wideProduct_lt (left right : UInt64) (positive : 0 < right.toNat) :
    (wideProduct left right).1.toNat < right.toNat := by
  have bound : left.toNat * right.toNat < 18446744073709551616 * right.toNat :=
    Nat.mul_lt_mul_of_pos_right left.toNat_lt positive
  have quotient : left.toNat * right.toNat / 18446744073709551616 < right.toNat :=
    Nat.div_lt_of_lt_mul bound
  have word : left.toNat * right.toNat / 18446744073709551616 < UInt64.size :=
    Nat.lt_trans quotient right.toNat_lt
  unfold wideProduct
  rwa [UInt64.toNat_ofNat_of_lt' word]

/-- An accepted outcome is below the number of outcomes. -/
theorem fst_drawBelow?_lt {outcomes : UInt64} (positive : 0 < outcomes.toNat) {fuel : Nat}
    {stream : Keystream} {drawn : UInt64 × Keystream}
    (accepted : drawBelow? fuel outcomes stream = some drawn) :
    drawn.1.toNat < outcomes.toNat := by
  induction fuel generalizing stream with
  | zero => cases accepted
  | succ fuel ih =>
    unfold drawBelow? at accepted
    dsimp only at accepted
    split at accepted
    · cases accepted
      exact fst_wideProduct_lt _ _ positive
    · exact ih accepted

/-- The number of outcomes between two bounds, as the machine counts it. -/
theorem toNat_outcomes {low high : UInt64} (ordered : low.toNat ≤ high.toNat) :
    (high - low + 1).toNat = (high.toNat - low.toNat + 1) % 18446744073709551616 := by
  rw [UInt64.toNat_add, UInt64.toNat_sub_of_le _ _ (UInt64.le_iff_toNat_le.mpr ordered)]
  rfl

/-- A uniform draw lies between its bounds. -/
theorem fst_uniform?_mem_range {low high : UInt64} (ordered : low.toNat ≤ high.toNat)
    {stream : Keystream} {drawn : UInt64 × Keystream}
    (accepted : uniform? low high stream = some drawn) :
    low.toNat ≤ drawn.1.toNat ∧ drawn.1.toNat ≤ high.toNat := by
  have below := high.toNat_lt
  have outcomes := toNat_outcomes ordered
  unfold uniform? at accepted
  dsimp only at accepted
  split at accepted
  · next full =>
    -- All words are outcomes, so the bounds are the least and the greatest word.
    rw [full] at outcomes
    have whole : high.toNat - low.toNat + 1 = 18446744073709551616 := by
      have none : (0 : UInt64).toNat = 0 := rfl
      omega
    have word := drawn.1.toNat_lt
    omega
  · next bounded =>
    obtain ⟨inner, found, rfl⟩ := Option.map_eq_some_iff.mp accepted
    have positive : 0 < (high - low + 1).toNat := by
      rcases Nat.eq_zero_or_pos (high - low + 1).toNat with none | some
      · exact absurd (UInt64.toNat_inj.mp none) bounded
      · exact some
    have outcome := fst_drawBelow?_lt positive found
    have sum : (low + inner.1).toNat = low.toNat + inner.1.toNat := by
      rw [UInt64.toNat_add]
      exact Nat.mod_eq_of_lt (by omega)
    rw [sum]
    omega

/-- A draw between two bounds lies between them. -/
theorem draw_mem_range {low high : UInt64} (ordered : low.toNat ≤ high.toNat)
    (stream : Keystream) :
    low.toNat ≤ (stream.draw low high).1.toNat ∧ (stream.draw low high).1.toNat ≤ high.toNat := by
  unfold draw
  split
  · exact ⟨Nat.le_refl _, ordered⟩
  · cases accepted : stream.uniform? low high with
    | none => exact ⟨Nat.le_refl _, ordered⟩
    | some drawn => exact fst_uniform?_mem_range ordered accepted

end Heartbeat.Keystream
