import FilterLanguage.Json.Document
import FilterLanguage.Number.Decimal

/-!
# Numbers in documents

A number without fraction and exponent is an integer as long as it fits 64 bits,
signed when it has a sign and unsigned otherwise; minus zero is none.  All
others are read by their leading digits, as many as fit an unsigned 64-bit
integer, which are rounded and then scaled by a rounded power of ten.
-/

namespace FilterLanguage

/-- A number as it is written, and the text behind it. -/
structure Numeral where
  whole : List Char
  fraction : Option (List Char)
  exponent : Option Int
  rest : List Char

namespace Numeral

def missingDigit (rest : List Char) : JsonFault :=
  if rest = [] then .endOfValue else .badNumber

/-- One digit or more. -/
def readDigits (text : List Char) : Except JsonFault (List Char × List Char) :=
  let digits := text.takeWhile Char.isDigit
  let rest := text.dropWhile Char.isDigit
  if digits = [] then .error (missingDigit rest) else .ok (digits, rest)

/-- Digits of which the first is no zero, or a zero alone. -/
def readWhole (text : List Char) : Except JsonFault (List Char × List Char) :=
  match readDigits text with
  | .ok ('0' :: _ :: _, _) => .error .badNumber
  | result => result

def onValue {α β : Type} (f : α → β) :
    Except JsonFault (α × List Char) → Except JsonFault (β × List Char)
  | .ok (a, rest) => .ok (f a, rest)
  | .error e => .error e

theorem ok_of_onValue {α β : Type} {f : α → β} {b : β} {rest : List Char}
    {read : Except JsonFault (α × List Char)}
    (h : onValue f read = .ok (b, rest)) : ∃ a, read = .ok (a, rest) := by
  cases read with
  | error e => simp [onValue] at h
  | ok p =>
    simp only [onValue, Except.ok.injEq, Prod.mk.injEq] at h
    exact ⟨p.1, by rw [← h.2]⟩

def readFraction (text : List Char) :
    Except JsonFault (Option (List Char) × List Char) :=
  match text with
  | '.' :: rest => onValue some (readDigits rest)
  | rest => .ok (none, rest)

def digitsValue (digits : List Char) : Int := Nat.ofDigitChars 10 digits 0

/-- The digits of an exponent behind its mark, with a sign or without. -/
def readPower (text : List Char) : Except JsonFault (Int × List Char) :=
  match text with
  | '-' :: rest => onValue (fun digits => -digitsValue digits) (readDigits rest)
  | '+' :: rest => onValue digitsValue (readDigits rest)
  | rest => onValue digitsValue (readDigits rest)

def readExponent (text : List Char) :
    Except JsonFault (Option Int × List Char) :=
  match text with
  | 'e' :: rest => onValue some (readPower rest)
  | 'E' :: rest => onValue some (readPower rest)
  | rest => .ok (none, rest)

def read (text : List Char) : Except JsonFault Numeral :=
  match readWhole text with
  | .error f => .error f
  | .ok (whole, afterWhole) =>
    match readFraction afterWhole with
    | .error f => .error f
    | .ok (fraction, afterFraction) =>
      match readExponent afterFraction with
      | .error f => .error f
      | .ok (exponent, rest) => .ok ⟨whole, fraction, exponent, rest⟩

/-- First natural number that does not fit 64 bits. -/
def wordLimit : Nat := Nat.pow 2 64

/-- Reads digits onto a significand as long as it fits 64 bits, and tells how
many digits were left. -/
def absorb (significand : Nat) : List Char → Nat × Nat
  | [] => (significand, 0)
  | digit :: rest =>
    let next := Nat.ofDigitChars 10 [digit] significand
    if next < wordLimit then absorb next rest
    else (significand, rest.length + 1)

def powerRank (power : Nat) : Nat := Decimal.rank ⟨1, power⟩

def divideByPower (rank power : Nat) : Nat :=
  rankOfRatio (rankUnits rank) (rankUnits (powerRank power))

def multiplyByPower (rank power : Nat) : Nat :=
  rankOfRatio (rankUnits rank * rankUnits (powerRank power)) (Nat.pow 2 2148)

/-- Divides by ten to a power, in steps that the powers in range allow. -/
def scaleDown (rank power : Nat) : Nat :=
  if power ≤ 308 then divideByPower rank power
  else if rank = 0 then 0
  else scaleDown (divideByPower rank 308) (power - 308)
termination_by power

/-- Rank of a scaled significand; out of range it is at least `rankCount`. -/
def scale (significand : Nat) (exponent : Int) : Nat :=
  let rank := rankOfRatio significand 1
  if exponent < 0 then scaleDown rank exponent.natAbs
  else if exponent ≤ 308 then multiplyByPower rank exponent.natAbs
  else if rank = 0 then 0
  else rankCount

def floating (negative : Bool) (rank : Nat) : Node :=
  if rank < rankCount then .floating (.ofRank negative rank)
  else .malformed .numberOutOfRange

def integer (negative : Bool) (n : Nat) : Node :=
  if negative then
    if n = 0 ∨ Nat.pow 2 63 < n then floating true (rankOfRatio n 1)
    else .integer (-n)
  else .integer n

def value (negative : Bool) (n : Numeral) : Node :=
  let (leading, left) := absorb 0 n.whole
  if n.fraction = none ∧ n.exponent = none ∧ left = 0 then
    integer negative leading
  else
    let fraction := n.fraction.getD []
    let (significand, unread) := absorb leading fraction
    let places : Int := (fraction.length : Int) - unread
    floating negative
      (scale significand (left - places + n.exponent.getD 0))

theorem readDigits_length {text digits rest : List Char}
    (h : readDigits text = .ok (digits, rest)) :
    rest.length < text.length := by
  simp only [readDigits] at h
  split at h
  · simp at h
  next hdigits =>
    simp only [Except.ok.injEq, Prod.mk.injEq] at h
    obtain ⟨_, rfl⟩ := h
    have hlength : (text.takeWhile Char.isDigit).length ≠ 0 := by
      intro hzero
      exact hdigits (List.length_eq_zero_iff.mp hzero)
    have happend := congrArg List.length
      (@List.takeWhile_append_dropWhile _ Char.isDigit text)
    simp only [List.length_append] at happend
    omega

theorem readWhole_length {text digits rest : List Char}
    (h : readWhole text = .ok (digits, rest)) :
    rest.length < text.length := by
  unfold readWhole at h
  split at h
  · simp at h
  · exact readDigits_length h

theorem readFraction_length {text rest : List Char}
    {fraction : Option (List Char)}
    (h : readFraction text = .ok (fraction, rest)) :
    rest.length ≤ text.length := by
  unfold readFraction at h
  split at h
  · obtain ⟨_, hread⟩ := ok_of_onValue h
    have := readDigits_length hread
    simp only [List.length_cons]
    omega
  · simp only [Except.ok.injEq, Prod.mk.injEq] at h
    exact Nat.le_of_eq (congrArg List.length h.2.symm)

theorem readPower_length {text rest : List Char} {power : Int}
    (h : readPower text = .ok (power, rest)) :
    rest.length < text.length := by
  unfold readPower at h
  split at h <;> obtain ⟨_, hread⟩ := ok_of_onValue h
  · exact Nat.lt_succ_of_lt (readDigits_length hread)
  · exact Nat.lt_succ_of_lt (readDigits_length hread)
  · exact readDigits_length hread

theorem readExponent_length {text rest : List Char} {exponent : Option Int}
    (h : readExponent text = .ok (exponent, rest)) :
    rest.length ≤ text.length := by
  unfold readExponent at h
  split at h
  · obtain ⟨_, hread⟩ := ok_of_onValue h
    exact Nat.le_of_lt (Nat.lt_succ_of_lt (readPower_length hread))
  · obtain ⟨_, hread⟩ := ok_of_onValue h
    exact Nat.le_of_lt (Nat.lt_succ_of_lt (readPower_length hread))
  · simp only [Except.ok.injEq, Prod.mk.injEq] at h
    exact Nat.le_of_eq (congrArg List.length h.2.symm)

theorem read_rest_length {text : List Char} {n : Numeral}
    (h : read text = .ok n) : n.rest.length < text.length := by
  unfold read at h
  split at h
  · simp at h
  next hwhole =>
    split at h
    · simp at h
    next hfraction =>
      split at h
      · simp at h
      next hexponent =>
        simp only [Except.ok.injEq] at h
        subst h
        exact Nat.lt_of_le_of_lt (readExponent_length hexponent)
          (Nat.lt_of_le_of_lt (readFraction_length hfraction)
            (readWhole_length hwhole))

end Numeral
end FilterLanguage
