import FilterLanguage.Number.Text
import FilterLanguage.Proofs.Number.Rounding
import Mathlib.Data.List.TakeWhile

/-!
# Numbers and their texts

The shortest decimal of a rank rounds to that rank, its positional text reads
back as a decimal of the same value, and the two shortcuts for very large and
very small decimals agree with rounding.  So the text of a non-negative number
reads back as the number.
-/

namespace FilterLanguage

namespace Decimal

/-! ## Decimals of equal value -/

theorem rank_zero (exponent : ℤ) : rank ⟨0, exponent⟩ = 0 := by
  unfold rank
  split
  · rw [zero_mul, rankOfRatio, zero_mul]
    exact rankOfUnits_eq_zero (by norm_num)
  · rw [rankOfRatio, zero_mul]
    exact rankOfUnits_eq_zero (Nat.pow_pos (by norm_num))

theorem rank_shift (coefficient : ℕ) (exponent : ℤ) :
    rank ⟨coefficient * 10, exponent⟩ = rank ⟨coefficient, exponent + 1⟩ := by
  simp only [rank]
  rcases lt_trichotomy exponent (-1) with hless | rfl | hmore
  · rw [if_neg (by omega), if_neg (by omega)]
    have hexp : (-exponent).toNat = (-(exponent + 1)).toNat + 1 := by omega
    rw [hexp]
    exact rankOfRatio_mul_right (by norm_num)
  · have hratio : rankOfRatio (coefficient * 10) (1 * 10) =
        rankOfRatio coefficient 1 := rankOfRatio_mul_right (by norm_num)
    simpa using hratio
  · rw [if_pos (by omega), if_pos (by omega)]
    have hexp : (exponent + 1).toNat = exponent.toNat + 1 := by omega
    rw [hexp, mul_assoc]
    congr 2
    exact (Nat.pow_succ' (m := 10) (n := exponent.toNat)).symm

theorem rank_trim (d : Decimal) : (trim d).rank = d.rank := by
  fun_induction trim d with
  | case1 d hzero =>
    rcases d with ⟨coefficient, exponent⟩
    obtain rfl : coefficient = 0 := hzero
    rw [rank_zero, rank_zero]
  | case2 d hnonzero hten ih =>
    rw [ih, ← rank_shift, Nat.div_mul_cancel (Nat.dvd_of_mod_eq_zero hten)]
  | case3 d hnonzero hten => rfl

/-! ## The shortest decimal -/

theorem units_of_scale_ge {k shift : ℕ} (hscale : shift ≤ rankScale k) :
    rankSignificand k * Nat.pow 2 (rankScale k - shift) * Nat.pow 2 shift =
      rankUnits k * 1 := by
  have hpow : Nat.pow 2 (rankScale k - shift) * Nat.pow 2 shift =
      Nat.pow 2 (rankScale k) := pow_sub_mul_pow 2 hscale
  rw [mul_one, rankUnits, mul_assoc, hpow]

theorem units_of_scale_le {k shift : ℕ} (hscale : rankScale k ≤ shift) :
    rankSignificand k * Nat.pow 5 (shift - rankScale k) * Nat.pow 2 shift =
      rankUnits k * Nat.pow 10 (shift - rankScale k) := by
  have htwo : Nat.pow 2 shift =
      Nat.pow 2 (shift - rankScale k) * Nat.pow 2 (rankScale k) :=
    (pow_sub_mul_pow 2 hscale).symm
  have hten : Nat.pow 10 (shift - rankScale k) =
      Nat.pow 5 (shift - rankScale k) * Nat.pow 2 (shift - rankScale k) :=
    mul_pow 5 2 _
  rw [htwo, hten, rankUnits]
  ring

theorem rank_exact (k : ℕ) : (exact k).rank = k := by
  obtain ⟨shift, hshift⟩ : ∃ shift, shift = 1074 := ⟨_, rfl⟩
  unfold exact
  rw [← hshift]
  dsimp only
  split
  next hscale =>
    have hone : Nat.pow 10 0 = 1 := rfl
    rw [rank, if_pos le_rfl]
    dsimp only
    rw [Int.toNat_zero, hone, mul_one]
    exact rankOfRatio_eq hshift Nat.one_pos (units_of_scale_ge hscale)
  next hscale =>
    have hnegative : ¬ (0 : ℤ) ≤ (rankScale k : ℤ) - 1074 := by omega
    have hexp :
        (-((rankScale k : ℤ) - 1074)).toNat = shift - rankScale k := by omega
    rw [rank, if_neg hnegative]
    dsimp only
    rw [hexp]
    exact rankOfRatio_eq hshift (Nat.pow_pos (by norm_num))
      (units_of_scale_le (Nat.le_of_not_le hscale))

theorem rank_of_shorten? {tie : Tie} {k dropped : ℕ} {d short : Decimal}
    (hshort : shorten? tie k d dropped = some short) : short.rank = k := by
  unfold shorten? at hshort
  dsimp only at hshort
  split at hshort
  next => simp at hshort
  next hlower hupper =>
    rw [Option.some.injEq] at hshort
    subst hshort
    simpa using hlower
  next hlower hupper =>
    rw [Option.some.injEq] at hshort
    subst hshort
    simpa using hupper
  next hlower hupper =>
    have hboth := And.intro (of_decide_eq_true hlower)
      (of_decide_eq_true hupper)
    split at hshort
    · rw [Option.some.injEq] at hshort
      exact hshort ▸ hboth.1
    split at hshort
    · rw [Option.some.injEq] at hshort
      exact hshort ▸ hboth.2
    cases tie with
    | up =>
      simp only [Option.some.injEq] at hshort
      exact hshort ▸ hboth.2
    | toEven =>
      simp only [Option.some.injEq] at hshort
      split at hshort
      · exact hshort ▸ hboth.1
      · exact hshort ▸ hboth.2

theorem rank_shortest (tie : Tie) (k : ℕ) : (shortest tie k).rank = k := by
  unfold shortest
  rw [rank_trim]
  set found := (List.range 17).findSome? fun i =>
    shorten? tie k (exact k) (digitCount (exact k).coefficient - (i + 1))
    with hfound
  cases hcase : found with
  | none => exact rank_exact k
  | some short =>
    rw [hfound] at hcase
    obtain ⟨i, _, hshort⟩ := List.exists_of_findSome?_eq_some hcase
    exact rank_of_shorten? hshort

/-! ## The shortcuts of reading -/

theorem lt_pow_digitCount (n : ℕ) : n < 10 ^ digitCount n :=
  (Nat.length_toDigits_le_iff (by norm_num) Nat.length_toDigits_pos).mp le_rfl

theorem pow_digitCount_le {n places : ℕ} (hn : n ≠ 0)
    (hplaces : places < digitCount n) : 10 ^ places ≤ n := by
  by_contra hless
  rcases Nat.eq_zero_or_pos places with rfl | hpos
  · simp only [pow_zero, not_le, Nat.lt_one_iff] at hless
    exact hn hless
  · have hlength : digitCount n ≤ places :=
      (Nat.length_toDigits_le_iff (by norm_num) hpos).mpr (not_le.mp hless)
    omega

/-- A decimal that lies before half of the least number has rank zero.  The two
powers that show it have names, so that nothing computes them. -/
theorem rank_eq_zero_of_small {d : Decimal}
    (hsmall : digitCount d.coefficient + d.exponent < -323) : d.rank = 0 := by
  rcases d with ⟨coefficient, exponent⟩
  dsimp only at hsmall
  obtain ⟨places, hplaces⟩ : ∃ places : ℕ, exponent = -places :=
    ⟨(-exponent).toNat, by omega⟩
  subst hplaces
  obtain ⟨gap, hgap⟩ : ∃ gap, gap = 324 := ⟨_, rfl⟩
  obtain ⟨units, hunits⟩ : ∃ units, units = Nat.pow 2 1074 := ⟨_, rfl⟩
  have hcount : digitCount coefficient + gap ≤ places := by omega
  have hhalf : 2 * units ≤ 10 ^ gap := by
    rw [hunits, hgap]
    decide +kernel
  have hless : 2 * (coefficient * units) < 10 ^ places := by
    calc
      2 * (coefficient * units) = coefficient * (2 * units) := by ring
      _ ≤ coefficient * 10 ^ gap := Nat.mul_le_mul_left _ hhalf
      _ < 10 ^ digitCount coefficient * 10 ^ gap :=
        Nat.mul_lt_mul_of_pos_right (lt_pow_digitCount _)
          (Nat.pow_pos (by norm_num))
      _ = 10 ^ (digitCount coefficient + gap) := (pow_add _ _ _).symm
      _ ≤ 10 ^ places := Nat.pow_le_pow_right (by norm_num) hcount
  have hnegative : ¬ (0 : ℤ) ≤ -(places : ℤ) := by omega
  have hexp : (-(-(places : ℤ))).toNat = places := by omega
  rw [rank, if_neg hnegative]
  dsimp only
  rw [hexp, rankOfRatio, ← hunits]
  exact rankOfUnits_eq_zero hless

/-- A decimal whose first digit lies past the largest number has no rank of a
finite number. -/
theorem rankCount_le_of_large {d : Decimal} (hnonzero : d.coefficient ≠ 0)
    (hlarge : 309 < digitCount d.coefficient + d.exponent) :
    rankCount ≤ d.rank := by
  rcases d with ⟨coefficient, exponent⟩
  dsimp only at hnonzero hlarge
  obtain ⟨units, hunits⟩ : ∃ units, units = Nat.pow 2 1074 := ⟨_, rfl⟩
  obtain ⟨gap, hgap⟩ : ∃ gap, gap = 309 := ⟨_, rfl⟩
  obtain ⟨top, htop⟩ : ∃ top, top = 2 ^ (52 + 2046) := ⟨_, rfl⟩
  have hpast : top ≤ 10 ^ gap * units := by
    rw [htop, hgap, hunits]
    decide +kernel
  have hbound : ∀ num den : ℕ, 0 < den → 10 ^ gap * den ≤ num →
      rankCount ≤ rankOfRatio num den := by
    intro num den hden hnum
    have hreach : top ≤ num * units / den := by
      rw [Nat.le_div_iff_mul_le hden]
      calc
        top * den ≤ 10 ^ gap * units * den := Nat.mul_le_mul_right _ hpast
        _ = 10 ^ gap * den * units := by ring
        _ ≤ num * units := Nat.mul_le_mul_right _ hnum
    rw [htop] at hreach
    rw [rankOfRatio, ← hunits]
    exact le_rankOfUnits hreach
  by_cases hexp : 0 ≤ exponent
  · obtain ⟨places, rfl⟩ := Int.eq_ofNat_of_zero_le hexp
    rw [rank, if_pos hexp]
    apply hbound _ _ one_pos
    have hfirst : 10 ^ (digitCount coefficient - 1) ≤ coefficient :=
      pow_digitCount_le hnonzero (by
        have : 0 < digitCount coefficient := Nat.length_toDigits_pos
        omega)
    rw [mul_one]
    calc
      10 ^ gap ≤ 10 ^ (digitCount coefficient - 1 + places) :=
        Nat.pow_le_pow_right (by norm_num) (by omega)
      _ = 10 ^ (digitCount coefficient - 1) * 10 ^ places := pow_add _ _ _
      _ ≤ coefficient * 10 ^ places := Nat.mul_le_mul_right _ hfirst
  · rw [rank, if_neg hexp]
    apply hbound _ _ (Nat.pow_pos (by norm_num))
    have hfirst : 10 ^ (gap + (-exponent).toNat) ≤ coefficient :=
      pow_digitCount_le hnonzero (by omega)
    rw [pow_add] at hfirst
    exact hfirst

theorem toNumber_of_rank_lt {d : Decimal} {negative : Bool}
    (hrank : d.rank < rankCount) :
    d.toNumber negative = .finite negative ⟨d.rank, hrank⟩ := by
  have hfinite : Number.ofRank negative d.rank =
      .finite negative ⟨d.rank, hrank⟩ := dif_pos hrank
  unfold toNumber
  dsimp only
  split
  next hzero =>
    have hrankZero : d.rank = 0 := by
      rcases hzero with hcoefficient | hsmall
      · rcases d with ⟨coefficient, exponent⟩
        obtain rfl : coefficient = 0 := hcoefficient
        exact rank_zero exponent
      · exact rank_eq_zero_of_small hsmall
    rw [← hfinite, hrankZero]
  next hnonzero =>
    split
    next hlarge =>
      have hle := rankCount_le_of_large (fun h => hnonzero (.inl h)) hlarge
      omega
    next => exact hfinite

/-! ## Positional texts -/

theorem read?_digits {digits : List Char} (hne : digits ≠ [])
    (hdigits : ∀ c ∈ digits, c.isDigit = true) :
    read? digits = some ⟨Nat.ofDigitChars 10 digits 0, 0⟩ := by
  have htake : digits.takeWhile Char.isDigit = digits :=
    List.takeWhile_eq_self_iff.mpr hdigits
  have hdrop : digits.dropWhile Char.isDigit = [] :=
    List.dropWhile_eq_nil_iff.mpr hdigits
  simp [read?, htake, hdrop, hne]

theorem takeWhile_isDigit {whole : List Char} {mark : Char}
    (hwhole : ∀ c ∈ whole, c.isDigit = true) (hmark : mark.isDigit = false)
    (rest : List Char) :
    (whole ++ mark :: rest).takeWhile Char.isDigit = whole := by
  rw [List.takeWhile_append_of_pos hwhole]
  simp [hmark]

theorem dropWhile_isDigit {whole : List Char} {mark : Char}
    (hwhole : ∀ c ∈ whole, c.isDigit = true) (hmark : mark.isDigit = false)
    (rest : List Char) :
    (whole ++ mark :: rest).dropWhile Char.isDigit = mark :: rest := by
  rw [List.dropWhile_append_of_pos hwhole]
  simp [hmark]

theorem isDigit_point : '.'.isDigit = false := rfl

theorem read?_point {whole fraction : List Char} (hne : whole ≠ [])
    (hwhole : ∀ c ∈ whole, c.isDigit = true)
    (hfraction : ∀ c ∈ fraction, c.isDigit = true) :
    read? (whole ++ '.' :: fraction) =
      some ⟨Nat.ofDigitChars 10 (whole ++ fraction) 0, -fraction.length⟩ := by
  have htake := takeWhile_isDigit hwhole isDigit_point fraction
  have hdrop := dropWhile_isDigit hwhole isDigit_point fraction
  have htakeFraction : fraction.takeWhile Char.isDigit = fraction :=
    List.takeWhile_eq_self_iff.mpr hfraction
  have hdropFraction : fraction.dropWhile Char.isDigit = [] :=
    List.dropWhile_eq_nil_iff.mpr hfraction
  simp [read?, htake, hdrop, htakeFraction, hdropFraction, hne]

theorem isDigit_of_mem_toDigits {n : ℕ} {c : Char}
    (hc : c ∈ Nat.toDigits 10 n) : c.isDigit = true :=
  Nat.isDigit_of_mem_toDigits (by norm_num) (by norm_num) hc

theorem isDigit_of_mem_zeros {n : ℕ} {c : Char}
    (hc : c ∈ List.replicate n '0') : c.isDigit = true := by
  rw [List.eq_of_mem_replicate hc]
  decide

theorem isDigit_of_mem_integer (coefficient places : ℕ) :
    ∀ c ∈ Nat.toDigits 10 coefficient ++ List.replicate places '0',
      c.isDigit = true := by
  intro c hc
  rcases List.mem_append.mp hc with hc | hc
  · exact isDigit_of_mem_toDigits hc
  · exact isDigit_of_mem_zeros hc

/-- Digits with at most one point, which stands behind a digit. -/
inductive IsPositional : List Char → Prop
  | digits {whole : List Char} (hne : whole ≠ [])
      (hwhole : ∀ c ∈ whole, c.isDigit = true) : IsPositional whole
  | point {whole fraction : List Char} (hne : whole ≠ [])
      (hwhole : ∀ c ∈ whole, c.isDigit = true)
      (hfraction : ∀ c ∈ fraction, c.isDigit = true) :
      IsPositional (whole ++ '.' :: fraction)

/-- The characters are a positional text that reads as a decimal of the same
rank. -/
def IsWrittenAs (d : Decimal) (text : List Char) : Prop :=
  IsPositional text ∧ ∃ read, read? text = some read ∧ read.rank = d.rank

theorem isWrittenAs_integer (coefficient places : ℕ) :
    IsWrittenAs ⟨coefficient, places⟩
      (Nat.toDigits 10 coefficient ++ List.replicate places '0') := by
  have hdigits := isDigit_of_mem_integer coefficient places
  have hne : Nat.toDigits 10 coefficient ++ List.replicate places '0' ≠ [] := by
    simp [Nat.toDigits_ne_nil]
  refine ⟨.digits hne hdigits, _, read?_digits hne hdigits, ?_⟩
  rw [Nat.ofDigitChars_append, Nat.ofDigitChars_ten_toDigits,
    Nat.ofDigitChars_replicate_zero, rank, rank, if_pos le_rfl,
    if_pos (Int.natCast_nonneg places)]
  dsimp only
  rw [Int.toNat_zero, Int.toNat_natCast, mul_comm (10 ^ places)]
  exact congrArg (rankOfRatio · 1) (mul_one _)

theorem isWrittenAs_point {coefficient places : ℕ}
    (hplaces : places < (Nat.toDigits 10 coefficient).length) :
    IsWrittenAs ⟨coefficient, -places⟩
      ((Nat.toDigits 10 coefficient).take
          ((Nat.toDigits 10 coefficient).length - places) ++
        '.' :: (Nat.toDigits 10 coefficient).drop
          ((Nat.toDigits 10 coefficient).length - places)) := by
  set digits := Nat.toDigits 10 coefficient with hdigits
  set whole := digits.length - places with hwhole
  have hne : digits.take whole ≠ [] := by
    intro hnil
    have hlength := congrArg List.length hnil
    simp only [List.length_take, List.length_nil] at hlength
    omega
  have hfront : ∀ c ∈ digits.take whole, c.isDigit = true :=
    fun c hc => isDigit_of_mem_toDigits (List.mem_of_mem_take hc)
  have hback : ∀ c ∈ digits.drop whole, c.isDigit = true :=
    fun c hc => isDigit_of_mem_toDigits (List.mem_of_mem_drop hc)
  have hlength : (digits.drop whole).length = places := by
    rw [List.length_drop]
    omega
  refine ⟨.point hne hfront hback, _, read?_point hne hfront hback, ?_⟩
  rw [List.take_append_drop, hlength, hdigits, Nat.ofDigitChars_ten_toDigits]

theorem isWrittenAs_fraction {coefficient places : ℕ}
    (hplaces : (Nat.toDigits 10 coefficient).length ≤ places) :
    IsWrittenAs ⟨coefficient, -places⟩
      ('0' :: '.' :: (List.replicate
          (places - (Nat.toDigits 10 coefficient).length) '0' ++
        Nat.toDigits 10 coefficient)) := by
  set digits := Nat.toDigits 10 coefficient with hdigits
  set zeros := places - digits.length with hzeros
  have hfront : ∀ c ∈ ['0'], c.isDigit = true := by
    intro c hc
    obtain rfl := List.mem_singleton.mp hc
    rfl
  have hback : ∀ c ∈ List.replicate zeros '0' ++ digits,
      c.isDigit = true := by
    intro c hc
    rcases List.mem_append.mp hc with hc | hc
    · exact isDigit_of_mem_zeros hc
    · exact isDigit_of_mem_toDigits hc
  have hne : ['0'] ≠ [] := List.cons_ne_nil '0' []
  have hlength : (List.replicate zeros '0' ++ digits).length = places := by
    rw [List.length_append, List.length_replicate]
    omega
  have hzerosValue :
      Nat.ofDigitChars 10 (List.replicate (zeros + 1) '0') 0 = 0 := by
    rw [Nat.ofDigitChars_replicate_zero, mul_zero]
  refine ⟨.point hne hfront hback, _, read?_point hne hfront hback, ?_⟩
  rw [hlength, ← List.append_assoc, List.singleton_append,
    ← List.replicate_succ, Nat.ofDigitChars_append, hzerosValue, hdigits,
    Nat.ofDigitChars_ten_toDigits]

theorem isWrittenAs_positional (d : Decimal) :
    d.IsWrittenAs d.positional.toList := by
  rcases d with ⟨coefficient, exponent⟩
  unfold positional
  dsimp only
  split
  next hexp =>
    obtain ⟨places, rfl⟩ := Int.eq_ofNat_of_zero_le hexp
    rw [String.toList_ofList, Int.toNat_natCast]
    exact isWrittenAs_integer coefficient places
  next hexp =>
    obtain ⟨places, hplaces⟩ : ∃ places : ℕ, exponent = -places :=
      ⟨(-exponent).toNat, by omega⟩
    subst hplaces
    have hcount : (-(-(places : ℤ))).toNat = places := by omega
    simp only [hcount]
    split
    next hinside =>
      rw [String.toList_ofList]
      exact isWrittenAs_point hinside
    next hinside =>
      rw [String.toList_ofList]
      exact isWrittenAs_fraction (not_lt.mp hinside)

theorem IsPositional.exists_cons {text : List Char}
    (htext : IsPositional text) :
    ∃ first rest, text = first :: rest ∧ first.isDigit = true := by
  cases htext with
  | digits hne hwhole =>
    cases text with
    | nil => exact (hne rfl).elim
    | cons first rest => exact ⟨first, rest, rfl, hwhole first (by simp)⟩
  | point hne hwhole hfraction =>
    rename_i whole fraction
    cases whole with
    | nil => exact (hne rfl).elim
    | cons first rest =>
      exact ⟨first, rest ++ '.' :: fraction, rfl, hwhole first (by simp)⟩

theorem IsPositional.isDigit_or_point {text : List Char}
    (htext : IsPositional text) {c : Char} (hc : c ∈ text) :
    c.isDigit = true ∨ c = '.' := by
  cases htext with
  | digits hne hwhole => exact .inl (hwhole c hc)
  | point hne hwhole hfraction =>
    rcases List.mem_append.mp hc with hc | hc
    · exact .inl (hwhole c hc)
    rcases List.mem_cons.mp hc with rfl | hc
    · exact .inr rfl
    · exact .inl (hfraction c hc)

end Decimal

namespace Number

theorem isWrittenAs_text (rank : Fin rankCount) :
    (Decimal.shortest .up rank).IsWrittenAs
      (Number.finite false rank).text.toList := by
  have htext : (Number.finite false rank).text =
      (Decimal.shortest .up rank).positional := by
    simp [text, sign]
  rw [htext]
  exact Decimal.isWrittenAs_positional _

/-- The text of a non-negative number reads back as that number. -/
theorem readUnsigned?_text (rank : Fin rankCount) :
    readUnsigned? (Number.finite false rank).text.toList =
      some (.finite false rank) := by
  obtain ⟨_, d, hread, hrank⟩ := isWrittenAs_text rank
  rw [Decimal.rank_shortest] at hrank
  have hfinite : d.rank < rankCount := hrank ▸ rank.isLt
  rw [readUnsigned?, hread, Option.map_some,
    Decimal.toNumber_of_rank_lt hfinite]
  simp only [hrank]

end Number

end FilterLanguage
