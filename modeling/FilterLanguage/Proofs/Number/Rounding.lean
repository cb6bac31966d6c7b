import FilterLanguage.Number.Rounding
import Mathlib.Tactic

/-!
# Rounding and ranks

Rounding depends on the value of a ratio only, and it gives every rank back from
the units at that rank.  The two bounds at the end say where rounding reaches
the next binade and where it falls to zero.
-/

namespace FilterLanguage

theorem divideToEven_mul_right {num den c : ℕ} (hc : 0 < c) :
    divideToEven (num * c) (den * c) = divideToEven num den := by
  have hless : den * c < 2 * (num % den * c) ↔ den < 2 * (num % den) := by
    rw [← mul_assoc, Nat.mul_lt_mul_right hc]
  have hequal : den * c = 2 * (num % den * c) ↔ den = 2 * (num % den) := by
    rw [← mul_assoc, Nat.mul_left_inj hc.ne']
  simp only [divideToEven, Nat.mul_div_mul_right _ _ hc, Nat.mul_mod_mul_right,
    hless, hequal]

theorem divideToEven_self_mul {n den : ℕ} (hden : 0 < den) :
    divideToEven (n * den) den = n := by
  have hdiv : n * den / den = n := Nat.mul_div_cancel n hden
  simp [divideToEven, hdiv, hden.ne']

theorem div_le_divideToEven (num den : ℕ) :
    num / den ≤ divideToEven num den := by
  simp only [divideToEven]
  split
  · omega
  · exact le_rfl

theorem divideToEven_eq_zero {num den : ℕ} (hsmall : 2 * num < den) :
    divideToEven num den = 0 := by
  have hdiv : num / den = 0 := Nat.div_eq_of_lt (by omega)
  have hmod : num % den = num := Nat.mod_eq_of_lt (by omega)
  simp only [divideToEven, hdiv, hmod]
  rw [if_neg]
  omega

theorem rankOfUnits_mul_right {num den c : ℕ} (hc : 0 < c) :
    rankOfUnits (num * c) (den * c) = rankOfUnits num den := by
  simp only [rankOfUnits, Nat.mul_div_mul_right _ _ hc]
  rw [mul_right_comm, divideToEven_mul_right hc]

theorem rankOfRatio_mul_right {num den c : ℕ} (hc : 0 < c) :
    rankOfRatio (num * c) (den * c) = rankOfRatio num den := by
  simp only [rankOfRatio]
  rw [mul_right_comm, rankOfUnits_mul_right hc]

theorem rankScale_mul_le (rank : ℕ) :
    rankScale rank * Nat.pow 2 52 ≤ rank := by
  have hle : (rank / Nat.pow 2 52) * Nat.pow 2 52 ≤ rank :=
    Nat.div_mul_le_self _ _
  have hscale : rankScale rank ≤ rank / Nat.pow 2 52 := Nat.sub_le _ _
  exact (Nat.mul_le_mul_right _ hscale).trans hle

/-- The units at a rank fill the binade of the rank's scale. -/
theorem log2_rankUnits (rank : ℕ) :
    (rankUnits rank).log2 - 52 = rankScale rank := by
  have hsum := rankScale_mul_le rank
  have hscale : rankScale rank = rank / Nat.pow 2 52 - 1 := rfl
  have hunits : rankUnits rank = rankSignificand rank * 2 ^ rankScale rank := rfl
  have hsignificand :
      rankSignificand rank = rank - rankScale rank * 2 ^ 52 := rfl
  have hdivision := Nat.div_add_mod rank (2 ^ 52)
  have hmod := Nat.mod_lt rank (show 0 < 2 ^ 52 by norm_num)
  have hpow : Nat.pow 2 52 = 2 ^ 52 := rfl
  rw [hpow] at hscale hsum
  rcases Nat.eq_zero_or_pos (rankScale rank) with hzero | hpos
  · rw [hunits, hzero, hsignificand, hzero]
    simp only [zero_mul, Nat.sub_zero, pow_zero, mul_one]
    rcases Nat.eq_zero_or_pos rank with rfl | hrank
    · simp
    · have hlog : rank.log2 < 53 := by
        rw [Nat.log2_lt hrank.ne']
        norm_num at *
        omega
      omega
  · have hlow : 2 ^ 52 ≤ rankSignificand rank := by
      rw [hsignificand]
      norm_num at *
      omega
    have hhigh : rankSignificand rank < 2 ^ 53 := by
      rw [hsignificand]
      norm_num at *
      omega
    have hlog : (rankUnits rank).log2 = 52 + rankScale rank := by
      rw [hunits, Nat.log2_eq_iff (by positivity)]
      constructor
      · rw [pow_add]
        exact Nat.mul_le_mul_right _ hlow
      · rw [show 52 + rankScale rank + 1 = 53 + rankScale rank by ring, pow_add]
        exact Nat.mul_lt_mul_of_pos_right hhigh (by positivity)
    omega

/-- Rounding leaves a number that needs no rounding where it is. -/
theorem rankOfUnits_rankUnits {rank den : ℕ} (hden : 0 < den) :
    rankOfUnits (rankUnits rank * den) den = rank := by
  have hquotient : rankUnits rank * den / den = rankUnits rank :=
    Nat.mul_div_cancel _ hden
  have hscaled : rankUnits rank * den =
      rankSignificand rank * (den * Nat.pow 2 (rankScale rank)) := by
    rw [rankUnits]
    ring
  have hpow : 0 < Nat.pow 2 (rankScale rank) := Nat.pow_pos (by norm_num)
  simp only [rankOfUnits, hquotient, log2_rankUnits]
  rw [hscaled, divideToEven_self_mul (Nat.mul_pos hden hpow)]
  have hle := rankScale_mul_le rank
  rw [rankSignificand]
  omega

/-- The exponent of the units has a name, so that nothing computes their power. -/
theorem rankOfRatio_eq {rank num den shift : ℕ} (hshift : shift = 1074)
    (hden : 0 < den) (hunits : num * Nat.pow 2 shift = rankUnits rank * den) :
    rankOfRatio num den = rank := by
  rw [rankOfRatio, ← hshift, hunits]
  exact rankOfUnits_rankUnits hden

/-- At least `2 ^ (52 + scale)` units round to no less than the rank where the
binade of that scale starts. -/
theorem le_rankOfUnits {num den scale : ℕ}
    (hnum : 2 ^ (52 + scale) ≤ num / den) :
    (scale + 1) * 2 ^ 52 ≤ rankOfUnits num den := by
  set q := num / den with hq
  have hqpos : q ≠ 0 := by
    have : 0 < 2 ^ (52 + scale) := by positivity
    omega
  have hlog : 52 + scale ≤ q.log2 := (Nat.le_log2 hqpos).mpr hnum
  have hself : 2 ^ q.log2 ≤ q := Nat.log2_self_le hqpos
  set found := q.log2 - 52 with hfound
  have hsplit : q.log2 = 52 + found := by omega
  have hrounded : 2 ^ 52 ≤ divideToEven num (den * 2 ^ found) := by
    refine le_trans ?_ (div_le_divideToEven _ _)
    rw [← Nat.div_div_eq_div_mul, ← hq, Nat.le_div_iff_mul_le (by positivity),
      ← pow_add, ← hsplit]
    exact hself
  have hscale : scale ≤ found := by omega
  calc
    (scale + 1) * 2 ^ 52 ≤ (found + 1) * 2 ^ 52 :=
      Nat.mul_le_mul_right _ (by omega)
    _ = found * 2 ^ 52 + 2 ^ 52 := by ring
    _ ≤ found * 2 ^ 52 + divideToEven num (den * 2 ^ found) :=
      Nat.add_le_add_left hrounded _

theorem rankOfUnits_eq_zero {num den : ℕ} (hsmall : 2 * num < den) :
    rankOfUnits num den = 0 := by
  have hdiv : num / den = 0 := Nat.div_eq_of_lt (by omega)
  have hround : divideToEven num den = 0 := divideToEven_eq_zero hsmall
  simp [rankOfUnits, hdiv, hround]

end FilterLanguage
