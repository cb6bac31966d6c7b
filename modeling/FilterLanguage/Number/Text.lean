import FilterLanguage.Number.Shortest

/-!
# Number texts

Two layouts of the shortest digits.  Plain text is always positional and has
no point when the number is an integer.  JSON text keeps a digit behind the
point, and leaves positional notation when the first digit stands for less than
`10 ^ (-5)` or for more than `10 ^ 15`; it has no form for NaN and the
infinities.
-/

namespace FilterLanguage

namespace Decimal

/-- Digits with the point that the exponent asks for. -/
def positional (d : Decimal) : String :=
  let digits := Nat.toDigits 10 d.coefficient
  if 0 ≤ d.exponent then
    String.ofList (digits ++ List.replicate d.exponent.toNat '0')
  else
    let places := (-d.exponent).toNat
    if places < digits.length then
      let whole := digits.length - places
      String.ofList (digits.take whole ++ '.' :: digits.drop whole)
    else
      let zeros := List.replicate (places - digits.length) '0'
      String.ofList ('0' :: '.' :: (zeros ++ digits))

/-- Exponent of ten of the first digit. -/
def firstPlace (d : Decimal) : Int :=
  digitCount d.coefficient - 1 + d.exponent

/-- One digit before the point, and an exponent with its sign. -/
def scientific (d : Decimal) : String :=
  let digits := Nat.toDigits 10 d.coefficient
  let place := d.firstPlace
  let mantissa :=
    match digits with
    | first :: second :: rest => first :: '.' :: second :: rest
    | few => few
  let sign := if place < 0 then "e-" else "e+"
  String.ofList mantissa ++ sign ++ place.natAbs.repr

/-- JSON layout: positional from `10 ^ (-5)` through `10 ^ 15`. -/
def json (d : Decimal) : String :=
  let place := d.firstPlace
  if -5 ≤ place ∧ place ≤ 15 then
    if 0 ≤ d.exponent then d.positional ++ ".0" else d.positional
  else d.scientific

end Decimal

namespace Number

def sign (negative : Bool) : String := if negative then "-" else ""

def text : Number → String
  | .finite negative rank =>
    sign negative ++ (Decimal.shortest .up rank).positional
  | .infinite negative => sign negative ++ "inf"
  | .nan => "NaN"

def json : Number → String
  | .finite negative rank =>
    sign negative ++ (Decimal.shortest .toEven rank).json
  | _ => "null"

end Number

end FilterLanguage
