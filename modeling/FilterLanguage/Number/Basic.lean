/-!
# Numbers

Number literals are binary64 floating-point numbers.  The finite numbers of
either sign are ranked from zero upward: rank `k` stands for
`significand k * 2 ^ scale k` units of `2 ^ (-1074)`, the least positive
number.  Since ranks follow the order of the values, comparing numbers is
comparing integers.
-/

namespace FilterLanguage

/-- How many finite magnitudes binary64 has. -/
abbrev rankCount : Nat := 2047 * Nat.pow 2 52

inductive Number where
  | finite (negative : Bool) (rank : Fin rankCount)
  | infinite (negative : Bool)
  | nan
deriving DecidableEq

def rankScale (rank : Nat) : Nat := rank / Nat.pow 2 52 - 1

def rankSignificand (rank : Nat) : Nat :=
  rank - rankScale rank * Nat.pow 2 52

/-- The magnitude at a rank, in units of `2 ^ (-1074)`. -/
def rankUnits (rank : Nat) : Nat :=
  rankSignificand rank * Nat.pow 2 (rankScale rank)

namespace Number

def zero : Number := .finite false ⟨0, by decide⟩

/-- The number with a given sign and rank; a rank past the last finite one
overflows. -/
def ofRank (negative : Bool) (rank : Nat) : Number :=
  if h : rank < rankCount then .finite negative ⟨rank, h⟩
  else .infinite negative

def isFinite : Number → Bool
  | .finite _ _ => true
  | _ => false

/-- Place in the numerical order.  The two zeros share one and NaN has
none. -/
def order : Number → Option Int
  | .finite false rank => some rank.val
  | .finite true rank => some (-rank.val)
  | .infinite false => some rankCount
  | .infinite true => some (-rankCount)
  | .nan => none

/-- Numerical equality: the zeros are equal and NaN differs from
everything. -/
def equals (x y : Number) : Bool :=
  match x.order, y.order with
  | some a, some b => a == b
  | _, _ => false

/-- Numerical order; NaN is below nothing and above nothing. -/
def less (x y : Number) : Bool :=
  match x.order, y.order with
  | some a, some b => a < b
  | _, _ => false

end Number

end FilterLanguage
