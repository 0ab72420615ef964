import Tenancy.Number.Double

/-!
# Rounding of integers

The float nearest to an integer grows with the integer (`Double.rank_ofInt_mono`). Integers of one
binary exponent share the place at which they are rounded; between exponents the significands stay
in `[2 ^ 52, 2 ^ 53]`, so the greater exponent outweighs them.
-/

namespace Tenancy.Double

/-! ## Halves to even -/

variable {a b den : Nat}

theorem le_roundHalfEven (num den : Nat) : num / den ≤ roundHalfEven num den := by
  unfold roundHalfEven
  dsimp only
  split
  · exact Nat.le_refl _
  · split <;> omega

theorem roundHalfEven_le (num den : Nat) : roundHalfEven num den ≤ num / den + 1 := by
  unfold roundHalfEven
  dsimp only
  split
  · omega
  · split <;> omega

theorem roundHalfEven_mono (h : a ≤ b) : roundHalfEven a den ≤ roundHalfEven b den := by
  rcases Nat.lt_or_eq_of_le (Nat.div_le_div_right (c := den) h) with hLt | hEq
  · exact Nat.le_trans (roundHalfEven_le a den) (Nat.le_trans hLt (le_roundHalfEven b den))
  · have hRest : a % den ≤ b % den := by
      have ha := Nat.div_add_mod a den
      have hb := Nat.div_add_mod b den
      rw [hEq] at ha
      omega
    unfold roundHalfEven
    rw [hEq]
    dsimp only
    generalize b / den = q
    repeat' split
    all_goals omega

/-! ## Significands -/

/-- The significand of the number nearest to `n`, in units of its last place. -/
def significandOf (n : Nat) : Nat :=
  roundHalfEven (n * 2 ^ (52 - n.log2)) (2 ^ (n.log2 - 52))

theorem binaryExponent_one {n : Nat} (hn : n ≠ 0) : binaryExponent n 1 = n.log2 := by
  have hReaches : reachesPowerOfTwo n 1 n.log2 := by
    simp [reachesPowerOfTwo, Nat.log2_self_le hn]
  have hGuess : (n.log2 : Int) - (Nat.log2 1 : Nat) = n.log2 := by
    rw [show Nat.log2 1 = 0 by decide]
    exact Int.sub_zero _
  rw [binaryExponent, hGuess]
  exact if_pos hReaches

theorem magnitudeOfRatio_one {n : Nat} (hn : n ≠ 0) :
    magnitudeOfRatio n 1 = min infinityBits (significandOf n + (n.log2 + 1022) * 2 ^ 52) := by
  have hPlace : max ((n.log2 : Int) - 52) (-1074) = (n.log2 : Int) - 52 := by omega
  have hUp : (-((n.log2 : Int) - 52)).toNat = 52 - n.log2 := by omega
  have hDown : ((n.log2 : Int) - 52).toNat = n.log2 - 52 := by omega
  have hExponent : ((n.log2 : Int) - 52 + 1074).toNat = n.log2 + 1022 := by omega
  rw [magnitudeOfRatio, binaryExponent_one hn, hPlace, hUp, hDown, hExponent, Nat.one_mul]
  rfl

theorem le_significandOf {n : Nat} (hn : n ≠ 0) : 2 ^ 52 ≤ significandOf n := by
  refine Nat.le_trans ?_ (le_roundHalfEven _ _)
  rw [Nat.le_div_iff_mul_le (Nat.two_pow_pos _)]
  calc 2 ^ 52 * 2 ^ (n.log2 - 52) = 2 ^ n.log2 * 2 ^ (52 - n.log2) := by
        rw [← Nat.pow_add, ← Nat.pow_add]
        congr 1
        omega
    _ ≤ n * 2 ^ (52 - n.log2) := Nat.mul_le_mul_right _ (Nat.log2_self_le hn)

theorem significandOf_le (n : Nat) : significandOf n ≤ 2 ^ 53 := by
  refine Nat.le_trans (roundHalfEven_le _ _) (Nat.div_lt_of_lt_mul ?_)
  calc n * 2 ^ (52 - n.log2) < 2 ^ (n.log2 + 1) * 2 ^ (52 - n.log2) :=
        Nat.mul_lt_mul_of_pos_right Nat.lt_log2_self (Nat.two_pow_pos _)
    _ = 2 ^ (n.log2 - 52) * 2 ^ 53 := by
        rw [← Nat.pow_add, ← Nat.pow_add]
        congr 1
        omega

/-! ## Monotonicity -/

theorem magnitudeOfRatio_one_mono (ha : a ≠ 0) (h : a ≤ b) :
    magnitudeOfRatio a 1 ≤ magnitudeOfRatio b 1 := by
  have hb : b ≠ 0 := by omega
  have hExponent : a.log2 ≤ b.log2 :=
    (Nat.le_log2 hb).2 (Nat.le_trans (Nat.log2_self_le ha) h)
  suffices hBits : significandOf a + (a.log2 + 1022) * 2 ^ 52 ≤
      significandOf b + (b.log2 + 1022) * 2 ^ 52 by
    rw [magnitudeOfRatio_one ha, magnitudeOfRatio_one hb, Nat.le_min]
    exact ⟨Nat.min_le_left _ _, Nat.le_trans (Nat.min_le_right _ _) hBits⟩
  rcases Nat.lt_or_eq_of_le hExponent with hLt | hEq
  · -- The step to the next exponent is worth as much as the range of the significands.
    calc significandOf a + (a.log2 + 1022) * 2 ^ 52 ≤ 2 ^ 53 + (a.log2 + 1022) * 2 ^ 52 :=
          Nat.add_le_add_right (significandOf_le a) _
      _ = 2 ^ 52 + (a.log2 + 1023) * 2 ^ 52 := by omega
      _ ≤ significandOf b + (b.log2 + 1022) * 2 ^ 52 :=
          Nat.add_le_add (le_significandOf hb) (Nat.mul_le_mul_right _ (by omega))
  · rw [significandOf, significandOf, hEq]
    exact Nat.add_le_add_right (roundHalfEven_mono (Nat.mul_le_mul_right _ h)) _

theorem magnitude_ofInt (i : Int) :
    (ofInt i).magnitude = if i = 0 then 0 else magnitudeOfRatio i.natAbs 1 := by
  unfold ofInt ofRatio
  by_cases h : i = 0
  · simp [h]
  · simp [h]

theorem magnitude_ofInt_mono {i j : Int} (h : i.natAbs ≤ j.natAbs) :
    (ofInt i).magnitude ≤ (ofInt j).magnitude := by
  rw [magnitude_ofInt, magnitude_ofInt]
  split
  · exact Nat.zero_le _
  · rw [if_neg (by omega)]
    exact magnitudeOfRatio_one_mono (by omega) h

theorem rank_ofInt (i : Int) :
    (ofInt i).rank = if i < 0 then -((ofInt i).magnitude : Int) else (ofInt i).magnitude := by
  have hSign : (ofInt i).negative = decide (i < 0) := by
    unfold ofInt ofRatio
    split <;> rfl
  simp [rank, hSign]

/-- Rounding keeps the order of integers. -/
theorem rank_ofInt_mono {i j : Int} (h : i ≤ j) : (ofInt i).rank ≤ (ofInt j).rank := by
  rw [rank_ofInt, rank_ofInt]
  by_cases hi : i < 0
  · by_cases hj : j < 0
    · have hMagnitude := magnitude_ofInt_mono (i := j) (j := i) (by omega)
      rw [if_pos hi, if_pos hj]
      omega
    · rw [if_pos hi, if_neg hj]
      omega
  · have hMagnitude := magnitude_ofInt_mono (i := i) (j := j) (by omega)
    rw [if_neg hi, if_neg (by omega)]
    omega

end Tenancy.Double
