import FilterLanguage.Proofs.Number.RoundTrip

/-!
# Numbers in JSON texts

Both layouts of the JSON text, positional with a digit behind the point and
scientific, read back as a decimal of the same rank.  So the text of a finite
number tells the number, its sign included.
-/

namespace FilterLanguage

namespace Decimal

variable {mantissa text : List Char} {d : Decimal}

theorem isDigit_exponentMark : 'e'.isDigit = false := rfl

/-- An exponent behind a positional text is added to its own. -/
theorem read?_exponent (hmantissa : IsPositional mantissa)
    (hread : read? mantissa = some d) (exponent : List Char) :
    read? (mantissa ++ 'e' :: exponent) =
      (readExponent exponent).map fun e => ⟨d.coefficient, e + d.exponent⟩ := by
  cases hmantissa with
  | digits hne hwhole =>
    rw [read?_digits hne hwhole, Option.some.injEq] at hread
    subst hread
    have htake := takeWhile_isDigit hwhole isDigit_exponentMark exponent
    have hdrop := dropWhile_isDigit hwhole isDigit_exponentMark exponent
    simp [read?, htake, hdrop, hne]
  | @point whole fraction hne hwhole hfraction =>
    rw [read?_point hne hwhole hfraction, Option.some.injEq] at hread
    subst hread
    rw [List.append_assoc, List.cons_append]
    have hfollow := takeWhile_isDigit hfraction isDigit_exponentMark exponent
    have hleft := dropWhile_isDigit hfraction isDigit_exponentMark exponent
    have htake :=
      takeWhile_isDigit hwhole isDigit_point (fraction ++ 'e' :: exponent)
    have hdrop :=
      dropWhile_isDigit hwhole isDigit_point (fraction ++ 'e' :: exponent)
    simp [read?, htake, hdrop, hfollow, hleft, hne, sub_eq_add_neg]

/-- The digits of an exponent with their sign in front. -/
def power (place : ℤ) : List Char :=
  (if place < 0 then '-' else '+') :: place.natAbs.repr.toList

theorem readExponent_power (place : ℤ) :
    readExponent (power place) = some place := by
  have hall : (Nat.toDigits 10 place.natAbs).all Char.isDigit = true :=
    List.all_eq_true.mpr fun _ hc => isDigit_of_mem_toDigits hc
  have hmagnitude : readExponent.magnitude place.natAbs.repr.toList =
      some place.natAbs := by
    simp [readExponent.magnitude, hall, Nat.toDigits_ne_nil,
      Nat.ofDigitChars_ten_toDigits]
  by_cases hnegative : place < 0
  · have hplace : -(place.natAbs : ℤ) = place := by omega
    rw [power, if_pos hnegative, readExponent, hmagnitude]
    exact congrArg some hplace
  · have hplace : (place.natAbs : ℤ) = place := by omega
    rw [power, if_neg hnegative, readExponent, hmagnitude]
    exact congrArg some hplace

/-- The mantissa has its point behind the first digit. -/
theorem scientific_eq (d : Decimal) : ∃ mantissa,
    d.scientific.toList = mantissa ++ 'e' :: power d.firstPlace ∧
      IsPositional mantissa ∧
      read? mantissa = some ⟨d.coefficient, 1 - digitCount d.coefficient⟩ := by
  have hdigits : ∀ c ∈ Nat.toDigits 10 d.coefficient, c.isDigit = true :=
    fun c hc => isDigit_of_mem_toDigits hc
  have hvalue : Nat.ofDigitChars 10 (Nat.toDigits 10 d.coefficient) 0 =
      d.coefficient := Nat.ofDigitChars_ten_toDigits
  have hpower : ∀ mantissa : List Char,
      (String.ofList mantissa ++ (if d.firstPlace < 0 then "e-" else "e+") ++
        d.firstPlace.natAbs.repr).toList =
      mantissa ++ 'e' :: power d.firstPlace := by
    intro mantissa
    unfold power
    split <;> simp
  rw [digitCount, scientific]
  cases hcase : Nat.toDigits 10 d.coefficient with
  | nil => exact (Nat.toDigits_ne_nil hcase).elim
  | cons first rest =>
    rw [hcase] at hdigits hvalue
    obtain ⟨hfirst, hrest⟩ := List.forall_mem_cons.mp hdigits
    cases rest with
    | nil =>
      refine ⟨[first], hpower _, .digits (by simp) hdigits, ?_⟩
      rw [read?_digits (by simp) hdigits, hvalue]
      rfl
    | cons second rest =>
      have hwhole : ∀ c ∈ [first], c.isDigit = true := by simpa using hfirst
      refine ⟨[first] ++ '.' :: second :: rest, hpower _,
        .point (by simp) hwhole hrest, ?_⟩
      have hplaces : -((second :: rest).length : ℤ) =
          1 - ((first :: second :: rest).length : ℤ) := by
        simp only [List.length_cons]
        omega
      rw [read?_point (by simp) hwhole hrest, List.singleton_append, hvalue,
        hplaces]

theorem read?_scientific (d : Decimal) :
    read? d.scientific.toList = some d := by
  obtain ⟨mantissa, htext, hmantissa, hread⟩ := scientific_eq d
  have hexponent : d.firstPlace + (1 - (digitCount d.coefficient : ℤ)) =
      d.exponent := by
    rw [firstPlace]
    omega
  rw [htext, read?_exponent hmantissa hread, readExponent_power,
    Option.map_some]
  dsimp only
  rw [hexponent]

/-- The text begins with a digit, has a point or an exponent, and reads as a
decimal of the same rank. -/
structure IsNumeralOf (d : Decimal) (text : List Char) : Prop where
  begins : ∃ first rest, text = first :: rest ∧ first.isDigit = true
  plain : ∀ c ∈ text, c.isDigit = true ∨ c ∈ ['.', 'e', '-', '+']
  marked : '.' ∈ text ∨ 'e' ∈ text
  reads : ∃ read, read? text = some read ∧ read.rank = d.rank

theorem IsPositional.plain (htext : IsPositional text) :
    ∀ c ∈ text, c.isDigit = true ∨ c ∈ ['.', 'e', '-', '+'] := by
  intro c hc
  rcases htext.isDigit_or_point hc with hdigit | rfl
  · exact .inl hdigit
  · exact .inr (by simp)

theorem power_plain (place : ℤ) :
    ∀ c ∈ power place, c.isDigit = true ∨ c ∈ ['.', 'e', '-', '+'] := by
  refine List.forall_mem_cons.mpr ⟨.inr ?_, ?_⟩
  · split <;> simp
  · intro c hc
    rw [Nat.toList_repr] at hc
    exact .inl (isDigit_of_mem_toDigits hc)

theorem isNumeralOf_of_isWrittenAs (hwritten : d.IsWrittenAs text)
    (hpoint : '.' ∈ text) : d.IsNumeralOf text where
  begins := hwritten.1.exists_cons
  plain := hwritten.1.plain
  marked := .inl hpoint
  reads := hwritten.2

/-- A zero behind the point of an integer changes the decimal, but not its
value. -/
theorem isWrittenAs_append_zero (hwritten : d.IsWrittenAs text)
    (hdigits : ∀ c ∈ text, c.isDigit = true) :
    d.IsWrittenAs (text ++ ['.', '0']) := by
  obtain ⟨hpositional, read, hread, hrank⟩ := hwritten
  obtain ⟨first, rest, htext, -⟩ := hpositional.exists_cons
  have hne : text ≠ [] := by simp [htext]
  have hzero : ∀ c ∈ ['0'], c.isDigit = true := by simp
  have hshift : Nat.ofDigitChars 10 (text ++ ['0']) 0 =
      Nat.ofDigitChars 10 text 0 * 10 := by
    rw [Nat.ofDigitChars_append]
    simp [Nat.ofDigitChars, mul_comm]
  rw [read?_digits hne hdigits, Option.some.injEq] at hread
  subst hread
  refine ⟨.point hne hdigits hzero, _, read?_point hne hdigits hzero, ?_⟩
  rw [← hrank, hshift, rank_shift]
  rfl

theorem isNumeralOf_integer (coefficient places : ℕ) :
    (Decimal.mk coefficient places).IsNumeralOf
      (Nat.toDigits 10 coefficient ++ List.replicate places '0' ++
        ['.', '0']) :=
  isNumeralOf_of_isWrittenAs
    (isWrittenAs_append_zero (isWrittenAs_integer coefficient places)
      (isDigit_of_mem_integer coefficient places))
    (by simp)

theorem point_mem_positional (hexponent : d.exponent < 0) :
    '.' ∈ d.positional.toList := by
  unfold positional
  dsimp only
  rw [if_neg (by omega)]
  split <;> simp

theorem isNumeralOf_scientific (d : Decimal) :
    d.IsNumeralOf d.scientific.toList := by
  obtain ⟨mantissa, htext, hmantissa, -⟩ := scientific_eq d
  have hreads := read?_scientific d
  rw [htext] at hreads ⊢
  have hmark : 'e' ∈ ['.', 'e', '-', '+'] := by simp
  have hplain := List.forall_mem_append.mpr ⟨hmantissa.plain,
    List.forall_mem_cons.mpr ⟨.inr hmark, power_plain d.firstPlace⟩⟩
  obtain ⟨first, rest, rfl, hfirst⟩ := hmantissa.exists_cons
  exact ⟨⟨first, _, rfl, hfirst⟩, hplain, .inr (by simp), d, hreads, rfl⟩

theorem isNumeralOf_json (d : Decimal) : d.IsNumeralOf d.json.toList := by
  unfold json
  dsimp only
  split
  next =>
    split
    next hexponent =>
      rcases d with ⟨coefficient, exponent⟩
      obtain ⟨places, rfl⟩ := Int.eq_ofNat_of_zero_le hexponent
      have hinteger := isNumeralOf_integer coefficient places
      simpa [positional] using hinteger
    next hexponent =>
      exact isNumeralOf_of_isWrittenAs (isWrittenAs_positional d)
        (point_mem_positional (not_le.mp hexponent))
  next => exact isNumeralOf_scientific d

end Decimal

namespace Number

variable {x : Number}

theorem toLower_of_isDigit {c : Char} (hc : c.isDigit = true) :
    c.toLower = c := by
  simp only [Char.isDigit, Bool.and_eq_true, decide_eq_true_eq] at hc
  refine dif_neg ?_
  rintro ⟨hupper, -⟩
  exact absurd (UInt32.le_trans hupper hc.2) (by decide)

theorem ne_of_isDigit {c mark : Char} (hc : c.isDigit = true)
    (hmark : mark.isDigit = false) : c ≠ mark := by
  rintro rfl
  rw [hc] at hmark
  contradiction

/-- A text that begins with a digit is not the name of a number. -/
theorem unsigned_of_isDigit {first : Char} (hfirst : first.isDigit = true)
    (negative : Bool) (rest : List Char) :
    read?.unsigned negative (first :: rest) =
      (Decimal.read? (first :: rest)).map (Decimal.toNumber negative) := by
  have hn : first ≠ 'n' := ne_of_isDigit hfirst rfl
  have hi : first ≠ 'i' := ne_of_isDigit hfirst rfl
  simp [read?.unsigned, toLower_of_isDigit hfirst, hn, hi]

theorem unsigned_json (negative : Bool) (rank : Fin rankCount) :
    read?.unsigned negative (Decimal.shortest .toEven rank).json.toList =
      some (.finite negative rank) := by
  have hnumeral := Decimal.isNumeralOf_json (.shortest .toEven rank)
  obtain ⟨first, rest, htext, hfirst⟩ := hnumeral.begins
  obtain ⟨read, hread, hrank⟩ := hnumeral.reads
  rw [Decimal.rank_shortest] at hrank
  have hless : read.rank < rankCount := hrank ▸ rank.isLt
  rw [htext, unsigned_of_isDigit hfirst, ← htext, hread, Option.map_some,
    Decimal.toNumber_of_rank_lt hless]
  simp only [hrank]

/-- The JSON text of a finite number reads back as that number. -/
theorem read?_json (hfinite : x.isFinite = true) : read? x.json = some x := by
  cases x with
  | finite negative rank =>
    have hunsigned := unsigned_json negative rank
    cases negative with
    | true => simpa [read?, json, sign] using hunsigned
    | false =>
      obtain ⟨first, rest, htext, hfirst⟩ :=
        (Decimal.isNumeralOf_json (.shortest .toEven rank)).begins
      have hminus : first ≠ '-' := ne_of_isDigit hfirst rfl
      have hplus : first ≠ '+' := ne_of_isDigit hfirst rfl
      rw [htext] at hunsigned
      simp [read?, json, sign, htext, hminus, hplus, hunsigned]
  | infinite negative => simp [isFinite] at hfinite
  | nan => simp [isFinite] at hfinite

/-- What tells the text of a finite number from other texts of values. -/
structure IsNumeral (text : List Char) : Prop where
  begins : ∃ first rest, text = first :: rest ∧
    (first.isDigit = true ∨ first = '-')
  plain : ∀ c ∈ text, c.isDigit = true ∨ c ∈ ['.', 'e', '-', '+']
  marked : '.' ∈ text ∨ 'e' ∈ text

theorem isNumeral_of_isNumeralOf {d : Decimal} {text : List Char}
    (htext : d.IsNumeralOf text) : IsNumeral text := by
  obtain ⟨first, rest, hcons, hfirst⟩ := htext.begins
  exact ⟨⟨first, rest, hcons, .inl hfirst⟩, htext.plain, htext.marked⟩

theorem IsNumeral.minus {text : List Char} (htext : IsNumeral text) :
    IsNumeral ('-' :: text) where
  begins := ⟨'-', text, rfl, .inr rfl⟩
  plain := List.forall_mem_cons.mpr ⟨.inr (by simp), htext.plain⟩
  marked := htext.marked.imp (List.mem_cons_of_mem _) (List.mem_cons_of_mem _)

theorem isNumeral_json (hfinite : x.isFinite = true) :
    IsNumeral x.json.toList := by
  cases x with
  | finite negative rank =>
    have hnumeral :=
      isNumeral_of_isNumeralOf (Decimal.isNumeralOf_json (.shortest .toEven rank))
    cases negative with
    | false => simpa [json, sign] using hnumeral
    | true => simpa [json, sign] using hnumeral.minus
  | infinite negative => simp [isFinite] at hfinite
  | nan => simp [isFinite] at hfinite

end Number

end FilterLanguage
