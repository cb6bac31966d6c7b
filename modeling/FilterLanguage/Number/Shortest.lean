import FilterLanguage.Number.Decimal

/-!
# Shortest decimals

The written digits of a number are the fewest that read back as that number
and, among equally many, those nearest to it.  Every number has an exact
decimal expansion; the candidates with `n` digits are the first `n` digits of
that expansion and the same plus one in the last place.  When none of the first
seventeen lengths has a candidate that reads back, the exact expansion does.
-/

namespace FilterLanguage

/-- Which of two equally near candidates is taken. -/
inductive Tie where
  | up
  | toEven
deriving DecidableEq

namespace Decimal

/-- The exact decimal expansion. -/
def exact (rank : Nat) : Decimal :=
  let scale := rankScale rank
  if 1074 ≤ scale then ⟨rankSignificand rank * Nat.pow 2 (scale - 1074), 0⟩
  else
    ⟨rankSignificand rank * Nat.pow 5 (1074 - scale), (scale : Int) - 1074⟩

/-- The decimal with its last digits cut off, or that plus one in the last
place: whichever reads back as the rank, and the nearer one if both do. -/
def shorten? (tie : Tie) (rank : Nat) (d : Decimal) (dropped : Nat) :
    Option Decimal :=
  let unit := Nat.pow 10 dropped
  let below := d.coefficient / unit
  let twice := 2 * (d.coefficient % unit)
  let lower : Decimal := ⟨below, d.exponent + dropped⟩
  let upper : Decimal := ⟨below + 1, d.exponent + dropped⟩
  match decide (lower.rank = rank), decide (upper.rank = rank) with
  | false, false => none
  | true, false => some lower
  | false, true => some upper
  | true, true =>
    if twice < unit then some lower
    else if unit < twice then some upper
    else match tie with
      | .up => some upper
      | .toEven => some (if below % 2 = 0 then lower else upper)

/-- The same value without trailing zeros in the coefficient. -/
def trim (d : Decimal) : Decimal :=
  if d.coefficient = 0 then ⟨0, 0⟩
  else if d.coefficient % 10 = 0 then
    trim ⟨d.coefficient / 10, d.exponent + 1⟩
  else d
termination_by d.coefficient
decreasing_by omega

/-- The shortest decimal that reads back as the number of this rank. -/
def shortest (tie : Tie) (rank : Nat) : Decimal :=
  let d := exact rank
  let length := digitCount d.coefficient
  let found := (List.range 17).findSome? fun i =>
    shorten? tie rank d (length - (i + 1))
  trim (found.getD d)

end Decimal

end FilterLanguage
