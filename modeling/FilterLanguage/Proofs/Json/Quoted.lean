import FilterLanguage.Json.Basic
import FilterLanguage.Json.Reader
import Mathlib.Tactic

/-!
# Quoted texts in JSON

What stands between the quotes is read back character by character: a character
that is escaped stands behind a backslash, and all others are neither a quote,
nor a backslash, nor a control character.  So a quoted text tells its value and
where it ends.
-/

namespace FilterLanguage

namespace JsonReader

open Json (escapeChar controlDigits quote)

variable {c : Char} {text rest rest' : List Char}

theorem readText_quote (rest : List Char) :
    readText ('"' :: rest) = .ok ([], rest) := by
  rw [readText, if_pos rfl]

theorem readText_escape (hescape : readEscape text = .ok (c, rest)) :
    readText ('\\' :: text) = Numeral.onValue (c :: ·) (readText rest) := by
  rw [readText, if_neg (by decide), if_pos rfl]
  split
  next hfault =>
    rw [hescape] at hfault
    contradiction
  next hread =>
    rw [hescape, Except.ok.injEq, Prod.mk.injEq] at hread
    rw [← hread.1, ← hread.2]

theorem readText_plain (hquote : c ≠ '"') (hbackslash : c ≠ '\\')
    (hcontrol : ¬ c.toNat < 32) (rest : List Char) :
    readText (c :: rest) = Numeral.onValue (c :: ·) (readText rest) := by
  rw [readText, if_neg hquote, if_neg hbackslash, if_neg hcontrol]

theorem hexValue?_digitChar (n : ℕ) (hn : n < 16) :
    hexValue? (Nat.digitChar n) = some n := by
  interval_cases n <;> decide

theorem readEscape_controlDigits (hcontrol : c.toNat < 32) (rest : List Char) :
    readEscape ('u' :: '0' :: '0' :: (controlDigits c ++ rest)) =
      .ok (c, rest) := by
  have hhigh := hexValue?_digitChar (c.toNat / 16) (by omega)
  have hlow := hexValue?_digitChar (c.toNat % 16) (by omega)
  have hzero : hexValue? '0' = some 0 := by decide
  have hunit : c.toNat / 16 * 16 + c.toNat % 16 = c.toNat := by omega
  have hleading : isLeading c.toNat = false := by
    simp [isLeading]
    omega
  have htrailing : isTrailing c.toNat = false := by
    simp [isTrailing]
    omega
  have hread : readUnit ('0' :: '0' :: (controlDigits c ++ rest)) =
      .ok (c.toNat, rest) := by
    simp [readUnit, controlDigits, hhigh, hlow, hzero, hunit]
  simp [readEscape, hread, hleading, htrailing, Char.ofNat_toNat]

/-- The three ways in which a character is written between quotes. -/
inductive Escapes (c : Char) : List Char → Prop
  | letter {letter : Char} (hmeant : letterEscape? letter = some c) :
      Escapes c ['\\', letter]
  | control (hcontrol : c.toNat < 32) :
      Escapes c ('\\' :: 'u' :: '0' :: '0' :: controlDigits c)
  | plain (hquote : c ≠ '"') (hbackslash : c ≠ '\\')
      (hcontrol : ¬ c.toNat < 32) : Escapes c [c]

theorem escapes_escapeChar (c : Char) : Escapes c (escapeChar c) := by
  have hletter : ∀ {code : ℕ} {letter : Char}, c.toNat = code →
      letterEscape? letter = some (Char.ofNat code) →
      Escapes c ['\\', letter] := by
    intro code letter hcode hmeant
    rw [← hcode, Char.ofNat_toNat] at hmeant
    exact .letter hmeant
  by_cases hquote : c = '"'
  · subst hquote
    exact .letter (by decide)
  by_cases hbackslash : c = '\\'
  · subst hbackslash
    exact .letter (by decide)
  by_cases hline : c = '\n'
  · subst hline
    exact .letter (by decide)
  by_cases hreturn : c = '\r'
  · subst hreturn
    exact .letter (by decide)
  by_cases htab : c = '\t'
  · subst htab
    exact .letter (by decide)
  simp only [escapeChar, hquote, hbackslash, hline, hreturn, htab, if_false]
  split
  next hback => exact hletter hback (by decide)
  split
  next hfeed => exact hletter hfeed (by decide)
  split
  next hcontrol => exact .control hcontrol
  next hcontrol => exact .plain hquote hbackslash hcontrol

theorem readEscape_letter {letter : Char}
    (hmeant : letterEscape? letter = some c) (rest : List Char) :
    readEscape (letter :: rest) = .ok (c, rest) := by
  have hunit : letter ≠ 'u' := by
    rintro rfl
    contradiction
  rw [readEscape, hmeant]
  exact hunit

/-- Reading takes off what stands for one character. -/
theorem readText_escapeChar (c : Char) (rest : List Char) :
    readText (escapeChar c ++ rest) =
      Numeral.onValue (c :: ·) (readText rest) := by
  have hescapes := escapes_escapeChar c
  generalize escapeChar c = written at hescapes
  cases hescapes with
  | letter hmeant => exact readText_escape (readEscape_letter hmeant rest)
  | control hcontrol =>
    exact readText_escape (readEscape_controlDigits hcontrol rest)
  | plain hquote hbackslash hcontrol =>
    exact readText_plain hquote hbackslash hcontrol rest

theorem readText_flatMap (value rest : List Char) :
    readText (value.flatMap escapeChar ++ '"' :: rest) = .ok (value, rest) := by
  induction value with
  | nil => exact readText_quote rest
  | cons c value ih =>
    rw [List.flatMap_cons, List.append_assoc, readText_escapeChar, ih]
    rfl

/-- A quoted text tells its value and where it ends. -/
theorem quote_append_cancel {value value' : String}
    (htext : (quote value).toList ++ rest = (quote value').toList ++ rest') :
    value = value' ∧ rest = rest' := by
  have hbody : value.toList.flatMap escapeChar ++ '"' :: rest =
      value'.toList.flatMap escapeChar ++ '"' :: rest' := by
    simpa [quote] using htext
  have hread := readText_flatMap value.toList rest
  rw [hbody, readText_flatMap, Except.ok.injEq, Prod.mk.injEq] at hread
  exact ⟨String.toList_inj.mp hread.1.symm, hread.2.symm⟩

end JsonReader

end FilterLanguage
