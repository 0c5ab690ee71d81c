import ControlPlane.Number.Binary64

/-!
# The sign of a difference

A difference of doubles is rounded, but never to the other side of zero: it is positive exactly if
the one is above the other. So a clock that compares the time left with zero tells whether a
deadline is still to come.
-/

namespace ControlPlane

namespace Binary64

/-- The double that is written as zero is the finite one of value zero. -/
theorem zero_eq : (0 : Binary64) = finite 0 := by decide +kernel

/-- Zero is not below itself. -/
theorem not_zero_lt_zero : ¬(0 : Binary64) < 0 := by decide +kernel

/-- Rounding does not take a positive number to zero. -/
theorem roundSignificant_pos {n : Nat} (hn : 0 < n) : 0 < roundSignificant n 1 := by
  unfold roundSignificant
  rw [Nat.div_one, Nat.shiftLeft_eq, Nat.shiftLeft_eq, Nat.one_mul]
  have hpow : 2 ^ (n.log2 - 52) ≤ n :=
    Nat.le_trans (Nat.pow_le_pow_right Nat.two_pos (Nat.sub_le _ _))
      (Nat.log2_self_le (Nat.ne_of_gt hn))
  -- The leading bits stay, so that rounding them down leaves something.
  have hquotient : 0 < n / 2 ^ (n.log2 - 52) := Nat.div_pos hpow (Nat.two_pow_pos _)
  refine Nat.mul_pos ?_ (Nat.two_pow_pos _)
  unfold roundHalfEven
  dsimp only
  split
  · exact hquotient
  · split
    · omega
    · split <;> omega

/-- Rounding keeps the sign: a number of units is positive exactly when its double is. -/
theorem ofUnits_pos_iff {z : Int} : 0 < ofUnits z ↔ 0 < z := by
  rw [zero_eq]
  show lt (finite 0) (ofMagnitude (decide (z < 0)) (roundSignificant z.natAbs 1)) = true ↔ 0 < z
  rcases Int.lt_trichotomy z 0 with hz | rfl | hz
  · unfold ofMagnitude
    split <;> simp [lt, hz] <;> omega
  · decide +kernel
  · have hround : 0 < roundSignificant z.natAbs 1 := roundSignificant_pos (by omega)
    have hsign : ¬z < 0 := by omega
    unfold ofMagnitude
    split <;> simp [lt, hsign, hz, hround]

/-- A difference is positive if and only if the one is above the other. -/
theorem sub_pos_iff {a b : Binary64} : 0 < a - b ↔ b < a := by
  rw [zero_eq]
  show lt (finite 0) (add a (neg b)) = true ↔ lt b a = true
  cases a with
  | finite x =>
    cases b with
    | finite y =>
      -- Rounding keeps the sign, however small the difference.
      have hpos : (0 : Binary64) < ofUnits (x + -y) ↔ 0 < x + -y := ofUnits_pos_iff
      rw [zero_eq] at hpos
      refine hpos.trans ?_
      show _ ↔ decide (y < x) = true
      rw [decide_eq_true_iff]
      omega
    | infinity n => cases n <;> exact Iff.rfl
    | nan => exact Iff.rfl
  | infinity m =>
    cases b with
    | finite y => cases m <;> exact Iff.rfl
    | infinity n => cases m <;> cases n <;> exact Iff.rfl
    | nan => cases m <;> exact Iff.rfl
  | nan => cases b <;> exact Iff.rfl

end Binary64

end ControlPlane
