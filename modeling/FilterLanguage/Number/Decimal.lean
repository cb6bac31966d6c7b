import FilterLanguage.Number.Rounding

/-!
# Decimals

A decimal is a coefficient and an exponent of ten.  This file reads decimals
from digits and rounds them to numbers.

The written form is a run of digits with at most one point among or beside
them, then perhaps an exponent, `e` or `E` with digits that may have a sign.
At least one digit stands before the exponent.
-/

namespace FilterLanguage

/-- The value `coefficient * 10 ^ exponent`. -/
structure Decimal where
  coefficient : Nat
  exponent : Int
deriving DecidableEq, Repr

namespace Decimal

def digitCount (n : Nat) : Nat := (Nat.toDigits 10 n).length

/-- Rank of the nearest number. -/
def rank (d : Decimal) : Nat :=
  if 0 ≤ d.exponent then
    rankOfRatio (d.coefficient * Nat.pow 10 d.exponent.toNat) 1
  else
    rankOfRatio d.coefficient (Nat.pow 10 (-d.exponent).toNat)

/-- The nearest number.  A decimal whose first digit lies past the largest
number overflows, and one whose first digit lies before half of the least
number vanishes; both are settled before any power of ten is formed. -/
def toNumber (negative : Bool) (d : Decimal) : Number :=
  let top : Int := digitCount d.coefficient + d.exponent
  if d.coefficient = 0 ∨ top < -323 then .ofRank negative 0
  else if 309 < top then .infinite negative
  else .ofRank negative d.rank

def readExponent : List Char → Option Int
  | '-' :: digits => (magnitude digits).map fun n => -(n : Int)
  | '+' :: digits => (magnitude digits).map fun n => (n : Int)
  | digits => (magnitude digits).map fun n => (n : Int)
where
  magnitude (digits : List Char) : Option Nat :=
    if digits ≠ [] ∧ digits.all Char.isDigit then
      some (Nat.ofDigitChars 10 digits 0)
    else none

/-- Reads an unsigned decimal, of which nothing may be left over. -/
def read? (text : List Char) : Option Decimal :=
  let whole := text.takeWhile Char.isDigit
  let afterWhole := text.dropWhile Char.isDigit
  let (fraction, afterFraction) :=
    match afterWhole with
    | '.' :: rest => (rest.takeWhile Char.isDigit, rest.dropWhile Char.isDigit)
    | rest => ([], rest)
  if whole = [] ∧ fraction = [] then none
  else
    let coefficient := Nat.ofDigitChars 10 (whole ++ fraction) 0
    match afterFraction with
    | [] => some ⟨coefficient, -fraction.length⟩
    | mark :: rest =>
      if mark = 'e' ∨ mark = 'E' then
        (readExponent rest).map fun e => ⟨coefficient, e - fraction.length⟩
      else none

end Decimal

namespace Number

def readUnsigned? (text : List Char) : Option Number :=
  (Decimal.read? text).map (Decimal.toNumber false)

/-- Reads a number that may have a sign, or one of the names `NaN`, `inf` and
`infinity` in either case. -/
def read? (text : String) : Option Number :=
  match text.toList with
  | '-' :: rest => unsigned true rest
  | '+' :: rest => unsigned false rest
  | rest => unsigned false rest
where
  unsigned (negative : Bool) (rest : List Char) : Option Number :=
    let name := rest.map Char.toLower
    if name = "nan".toList then some .nan
    else if name = "inf".toList ∨ name = "infinity".toList then
      some (.infinite negative)
    else (Decimal.read? rest).map (Decimal.toNumber negative)

def ofInt (i : Int) : Number :=
  Decimal.toNumber (i < 0) ⟨i.natAbs, 0⟩

end Number

end FilterLanguage
