import FilterLanguage.Number.Basic

/-!
# Rounding to the nearest number

A non-negative ratio is rounded to the nearest rank, a ratio half way between
two goes to the even significand.  Everything is computed in units of
`2 ^ (-1074)`, where a number below `2 ^ 53` units is spaced by one unit and the
spacing doubles with every further bit.
-/

namespace FilterLanguage

/-- `num / den` rounded to an integer, a half to the even one. -/
def divideToEven (num den : Nat) : Nat :=
  let quotient := num / den
  let twice := 2 * (num % den)
  if den < twice ∨ (den = twice ∧ quotient % 2 = 1) then quotient + 1
  else quotient

/-- Rank nearest to `num / den` units.  The doubling of the spacing makes a
significand that rounds up to the next power of two carry into the scale by
itself. -/
def rankOfUnits (num den : Nat) : Nat :=
  let scale := (num / den).log2 - 52
  scale * Nat.pow 2 52 + divideToEven num (den * Nat.pow 2 scale)

/-- Rank nearest to the ratio `num / den`; beyond the finite numbers it is at
least `rankCount`. -/
def rankOfRatio (num den : Nat) : Nat :=
  rankOfUnits (num * Nat.pow 2 1074) den

end FilterLanguage
