import FilterLanguage.Proofs.Token.Step

/-!
# Longest matches

What a step comes to can be told by patterns, as in a table for a lexer.  Among
all matches at the place of the cursor the longest one counts, and among equally
long ones a fixed token comes before a bare word, so that `true` is a keyword and
`trueish` is none.  Wherever input is left some pattern matches.
-/

namespace FilterLanguage

/-- The patterns of raw tokens. -/
inductive Pattern where
  | fixed (token : Token)
  | quote (quote : Char)
  | number
  | word
  | gap

namespace Pattern

/-- The tokens that have one spelling only. -/
def fixedTokens : List Token :=
  [.literal (.boolean true), .literal (.boolean false), .connective .and,
    .connective .or, .groupBegin, .groupEnd]

/-- The pattern matches the whole of these characters. -/
def Matches : Pattern → List Char → Prop
  | .fixed token, chars => token ∈ fixedTokens ∧ chars = token.text.toList
  | .quote q, chars => IsQuote q ∧ chars = [q]
  | .number, chars => ∃ first tail, chars = first :: tail ∧
      isNumberStart first = true ∧ ∀ c ∈ tail, isRunChar c = true
  | .word, chars => ∃ first tail, chars = first :: tail ∧
      isRunChar first = true ∧ ¬ IsQuote first ∧ isNumberStart first = false ∧
        ∀ c ∈ tail, isRunChar c = true
  | .gap, chars => ∃ count, chars = spaces (count + 1)

/-- What becomes of a match at `offset` with `rest` behind it. -/
def scan (offset : Nat) (chars rest : List Char) : Pattern → Scan
  | .fixed token => found token
  | .quote q => Cursor.quoted offset q rest
  | .number =>
    match (Number.readUnsigned? chars).filter Number.isFinite with
    | some value => found (.literal (.number value))
    | none =>
      .error
        (.found .invalidNumber ⟨offset, stop⟩
          ("`" ++ String.ofList chars ++ "`"))
        ⟨stop, rest⟩
  | .word => found (.reference (String.ofList chars))
  | .gap => Cursor.next ⟨stop, rest⟩
where
  stop : Nat := offset + byteLength chars
  found (token : Token) : Scan :=
    .lexeme ⟨token, ⟨offset, stop⟩⟩ ⟨stop, rest⟩

end Pattern

/-- Of all that matches at the start of the text this is the match that counts. -/
structure IsLongestMatch (pattern : Pattern) (chars text : List Char) : Prop where
  starts : chars <+: text
  accepts : pattern.Matches chars
  longest : ∀ (other : Pattern) (chars' : List Char), other.Matches chars' → chars' <+: text →
    chars'.length ≤ chars.length
  preferred : ∀ other : Pattern, other.Matches chars →
    other = pattern ∨ other = .word

/-- Behind `first`, a match goes on with `c`. -/
def goesOn (first c : Char) : Bool :=
  if first = ' ' then c == ' '
  else if first = '(' ∨ first = ')' ∨ IsQuote first then false
  else isRunChar c

theorem goesOn_of_isRunChar {first : Char} (hrun : isRunChar first = true)
    (hquote : ¬ IsQuote first) : goesOn first = isRunChar := by
  obtain ⟨hspace, hopen, hclose⟩ := isRunChar_iff.mp hrun
  funext c
  simp [goesOn, hspace, hopen, hclose, hquote]

theorem isRunChar_of_isNumberStart {first : Char}
    (hstart : isNumberStart first = true) :
    isRunChar first = true ∧ ¬ IsQuote first := by
  constructor
  · rcases Bool.or_eq_true_iff.mp hstart with hdigit | hpoint
    · exact isRunChar_of_isDigit hdigit
    · rw [eq_of_beq hpoint]
      rfl
  · rintro (rfl | rfl) <;> cases hstart

namespace Pattern

theorem Matches.goesOn {pattern : Pattern} {chars : List Char}
    (hmatches : pattern.Matches chars) :
    ∃ first tail, chars = first :: tail ∧
      ∀ c ∈ tail, goesOn first c = true := by
  cases pattern with
  | fixed token =>
    obtain ⟨htoken, rfl⟩ := hmatches
    simp only [fixedTokens, List.mem_cons, List.not_mem_nil, or_false] at htoken
    rcases htoken with rfl | rfl | rfl | rfl | rfl | rfl
    · exact ⟨'t', "rue".toList, rfl, List.all_eq_true.mp (by decide)⟩
    · exact ⟨'f', "alse".toList, rfl, List.all_eq_true.mp (by decide)⟩
    · exact ⟨'A', "ND".toList, rfl, List.all_eq_true.mp (by decide)⟩
    · exact ⟨'O', "R".toList, rfl, List.all_eq_true.mp (by decide)⟩
    · exact ⟨'(', [], rfl, List.all_eq_true.mp (by decide)⟩
    · exact ⟨')', [], rfl, List.all_eq_true.mp (by decide)⟩
  | quote q =>
    obtain ⟨hquote, rfl⟩ := hmatches
    exact ⟨q, [], rfl, by simp⟩
  | number =>
    obtain ⟨first, tail, rfl, hstart, htail⟩ := hmatches
    obtain ⟨hrun, hquote⟩ := isRunChar_of_isNumberStart hstart
    refine ⟨first, tail, rfl, ?_⟩
    rwa [goesOn_of_isRunChar hrun hquote]
  | word =>
    obtain ⟨first, tail, rfl, hrun, hquote, -, htail⟩ := hmatches
    refine ⟨first, tail, rfl, ?_⟩
    rwa [goesOn_of_isRunChar hrun hquote]
  | gap =>
    obtain ⟨count, rfl⟩ := hmatches
    refine ⟨' ', spaces count, rfl, ?_⟩
    intro c hc
    rw [List.eq_of_mem_replicate hc]
    rfl

/-- No match is longer than the first character and what goes on behind it. -/
theorem Matches.length_le {pattern : Pattern} {chars rest : List Char}
    {first : Char} (hmatches : pattern.Matches chars)
    (hstarts : chars <+: first :: rest) :
    chars.length ≤
      (first :: rest.takeWhile (FilterLanguage.goesOn first)).length := by
  obtain ⟨first', tail, rfl, htail⟩ := hmatches.goesOn
  obtain ⟨rfl, more, rfl⟩ := List.cons_prefix_cons.mp hstarts
  rw [List.takeWhile_append_of_pos htail]
  simp

theorem exists_matches_of_run {first : Char} {tail : List Char}
    (hquote : ¬ IsQuote first)
    (hrun : ∀ c ∈ first :: tail, isRunChar c = true) :
    ∃ pattern : Pattern, pattern.Matches (first :: tail) := by
  obtain ⟨hfirst, htail⟩ := List.forall_mem_cons.mp hrun
  by_cases hstart : isNumberStart first = true
  · exact ⟨.number, first, tail, rfl, hstart, htail⟩
  · rw [Bool.not_eq_true] at hstart
    exact ⟨.word, first, tail, rfl, hfirst, hquote, hstart, htail⟩

end Pattern

namespace IsLongestMatch

variable {pattern : Pattern}

/-- A run that is a longest match does not go on behind it. -/
theorem endsRun {first : Char} {tail rest : List Char}
    (hmatch : IsLongestMatch pattern (first :: tail) (first :: tail ++ rest))
    (hquote : ¬ IsQuote first)
    (hrun : ∀ c ∈ first :: tail, isRunChar c = true) : EndsRun rest := by
  intro c hc
  by_contra hgoes
  rw [Bool.not_eq_false] at hgoes
  have hlonger : ∀ d ∈ first :: (tail ++ [c]), isRunChar d = true := by
    intro d hd
    rcases List.mem_append.mp (List.cons_append ▸ hd) with hd | hd
    · exact hrun d hd
    · rwa [List.mem_singleton.mp hd]
  obtain ⟨other, hother⟩ := Pattern.exists_matches_of_run hquote hlonger
  obtain ⟨more, rfl⟩ := List.head?_eq_some_iff.mp hc
  have hlength := hmatch.longest other _ hother ⟨more, by simp⟩
  simp at hlength

theorem next_fixed {token : Token} {rest : List Char}
    (hmatch : IsLongestMatch (.fixed token) token.text.toList
      (token.text.toList ++ rest)) (offset : Nat) :
    Cursor.next ⟨offset, token.text.toList ++ rest⟩ =
      Pattern.scan offset token.text.toList rest (.fixed token) := by
  have hwritable : token.IsWritable := by
    have htoken := hmatch.accepts.1
    simp only [Pattern.fixedTokens, List.mem_cons, List.not_mem_nil,
      or_false] at htoken
    rcases htoken with rfl | rfl | rfl | rfl | rfl | rfl <;> trivial
  apply Cursor.next_text hwritable
  intro hrun
  obtain ⟨first, tail, hchars, hreads⟩ :=
    Token.exists_readsRun hwritable hrun
  rw [hchars] at hmatch
  exact hmatch.endsRun
    (not_or.mpr ⟨hreads.doubleQuote, hreads.singleQuote⟩) hreads.run

theorem isBareWord {chars : List Char} {text : List Char}
    (hmatch : IsLongestMatch .word chars text) :
    IsBareWord (String.ofList chars) := by
  obtain ⟨first, tail, rfl, hfirst, hquote, hstart, htail⟩ := hmatch.accepts
  obtain ⟨hdouble, hsingle⟩ := not_or.mp hquote
  obtain ⟨hpoint, hdigit⟩ := isNumberStart_eq_false_iff.mp hstart
  have hchars : (String.ofList (first :: tail)).toList = first :: tail :=
    String.toList_ofList
  refine ⟨?_, ⟨first, tail, hchars, hsingle, hdouble, hpoint, hdigit⟩, ?_⟩
  · intro c hc
    rw [hchars] at hc
    rcases List.mem_cons.mp hc with rfl | hc
    · exact isRunChar_iff.mp hfirst
    · exact isRunChar_iff.mp (htail c hc)
  · intro hkeyword
    have hfixed : ∃ token ∈ Pattern.fixedTokens,
        token.text = String.ofList (first :: tail) := by
      simp only [List.mem_cons, List.not_mem_nil, or_false] at hkeyword
      rcases hkeyword with h | h | h | h
      · exact ⟨.literal (.boolean true), by decide, h.symm⟩
      · exact ⟨.literal (.boolean false), by decide, h.symm⟩
      · exact ⟨.connective .and, by decide, h.symm⟩
      · exact ⟨.connective .or, by decide, h.symm⟩
    obtain ⟨token, htoken, htext⟩ := hfixed
    have haccepts : (Pattern.fixed token).Matches (first :: tail) :=
      ⟨htoken, by rw [htext, hchars]⟩
    rcases hmatch.preferred _ haccepts with h | h <;> cases h

theorem next_word {chars rest : List Char}
    (hmatch : IsLongestMatch .word chars (chars ++ rest)) (offset : Nat) :
    Cursor.next ⟨offset, chars ++ rest⟩ =
      Pattern.scan offset chars rest .word := by
  have hwritable : (Token.reference (String.ofList chars)).IsWritable :=
    hmatch.isBareWord
  obtain ⟨first, tail, rfl, hfirst, hquote, hstart, htail⟩ := hmatch.accepts
  have hends := hmatch.endsRun hquote (List.forall_mem_cons.mpr ⟨hfirst, htail⟩)
  have hnext := @Cursor.next_text offset _ rest hwritable fun _ => hends
  rwa [Token.text, String.toList_ofList] at hnext

theorem next_number {chars rest : List Char}
    (hmatch : IsLongestMatch .number chars (chars ++ rest)) (offset : Nat) :
    Cursor.next ⟨offset, chars ++ rest⟩ =
      Pattern.scan offset chars rest .number := by
  obtain ⟨first, tail, rfl, hstart, htail⟩ := hmatch.accepts
  obtain ⟨hfirst, hquote⟩ := isRunChar_of_isNumberStart hstart
  have hends := hmatch.endsRun hquote (List.forall_mem_cons.mpr ⟨hfirst, htail⟩)
  rw [List.cons_append, Cursor.next_run hfirst hquote]
  simp only [Cursor.run, takeWhile_run htail hends, dropWhile_run htail hends,
    Token.ofRun?, hstart, if_true, Pattern.scan]
  cases Number.readUnsigned? (first :: tail) with
  | none => rfl
  | some value =>
    by_cases hfinite : value.isFinite = true
    · simp only [Option.filter, hfinite, if_true]
      rfl
    · simp only [Option.filter, hfinite]
      rfl

/-- The scanner goes by the longest match. -/
theorem next_eq_scan {chars rest : List Char}
    (hmatch : IsLongestMatch pattern chars (chars ++ rest)) (offset : Nat) :
    Cursor.next ⟨offset, chars ++ rest⟩ = pattern.scan offset chars rest := by
  have haccepts := hmatch.accepts
  cases pattern with
  | fixed token =>
    obtain ⟨htoken, rfl⟩ := haccepts
    exact hmatch.next_fixed offset
  | quote q =>
    obtain ⟨hquote, rfl⟩ := haccepts
    exact Cursor.next_quote hquote offset rest
  | number => exact hmatch.next_number offset
  | word => exact hmatch.next_word offset
  | gap =>
    obtain ⟨count, rfl⟩ := haccepts
    rw [Cursor.next_spaces_append]
    simp only [Pattern.scan, Pattern.scan.stop, byteLength_spaces]

end IsLongestMatch

/-! ## There is a longest match -/

namespace Pattern

theorem fixedTokens_text_injective :
    ∀ s ∈ fixedTokens, ∀ t ∈ fixedTokens, s.text = t.text → s = t := by
  decide

/-- Apart from fixed tokens and words, a match is told by its first character. -/
theorem Matches.first_iff {pattern : Pattern} {first : Char} {tail : List Char}
    (hmatches : pattern.Matches (first :: tail)) :
    (pattern = .gap ↔ first = ' ') ∧ (pattern = .quote first ↔ IsQuote first) ∧
      (pattern = .number ↔ isNumberStart first = true) := by
  cases pattern with
  | fixed token =>
    obtain ⟨htoken, hchars⟩ := hmatches
    simp only [fixedTokens, List.mem_cons, List.not_mem_nil, or_false] at htoken
    rcases htoken with rfl | rfl | rfl | rfl | rfl | rfl
    all_goals
      obtain ⟨rfl, -⟩ := List.cons.inj hchars
      refine ⟨?_, ?_, ?_⟩ <;> simp only [reduceCtorEq, false_iff] <;> decide
  | quote q =>
    obtain ⟨hquote, hchars⟩ := hmatches
    obtain ⟨rfl, -⟩ := List.cons.inj hchars
    have hstart : isNumberStart first = false := by
      rcases hquote with rfl | rfl <;> rfl
    simp [hquote, hquote.ne.2.1, hstart]
  | number =>
    obtain ⟨first', tail', hchars, hstart, htail⟩ := hmatches
    obtain ⟨rfl, rfl⟩ := List.cons.inj hchars
    obtain ⟨hrun, hquote⟩ := isRunChar_of_isNumberStart hstart
    simp [hquote, (isRunChar_iff.mp hrun).1, hstart]
  | word =>
    obtain ⟨first', tail', hchars, hrun, hquote, hstart, htail⟩ := hmatches
    obtain ⟨rfl, rfl⟩ := List.cons.inj hchars
    simp [hquote, (isRunChar_iff.mp hrun).1, hstart]
  | gap =>
    obtain ⟨count, hchars⟩ := hmatches
    obtain ⟨rfl, -⟩ := List.cons.inj hchars
    refine ⟨by simp, ?_, ?_⟩ <;> simp only [reduceCtorEq, false_iff] <;> decide

theorem Matches.fixed_or_word {pattern : Pattern} {first : Char}
    {tail : List Char} (hmatches : pattern.Matches (first :: tail))
    (hspace : first ≠ ' ') (hquote : ¬ IsQuote first)
    (hstart : ¬ isNumberStart first = true) :
    pattern = .word ∨ ∃ token ∈ fixedTokens, pattern = .fixed token ∧
      first :: tail = token.text.toList := by
  have hfirst := hmatches.first_iff
  cases pattern with
  | fixed token => exact .inr ⟨token, hmatches.1, rfl, hmatches.2⟩
  | quote q =>
    obtain ⟨rfl, -⟩ := List.cons.inj hmatches.2
    exact (hquote hmatches.1).elim
  | number => exact (hstart (hfirst.2.2.mp rfl)).elim
  | word => exact .inl rfl
  | gap => exact (hspace (hfirst.1.mp rfl)).elim

/-- Of two patterns that match the same characters one is that of a word. -/
theorem Matches.eq_or_word {pattern other : Pattern} {chars : List Char}
    (hmatches : pattern.Matches chars) (hother : other.Matches chars) :
    other = pattern ∨ pattern = .word ∨ other = .word := by
  obtain ⟨first, tail, rfl, -⟩ := hmatches.goesOn
  obtain ⟨hgap, hquote, hnumber⟩ := hmatches.first_iff
  obtain ⟨hgap', hquote', hnumber'⟩ := hother.first_iff
  by_cases hspace : first = ' '
  · exact .inl ((hgap'.mpr hspace).trans (hgap.mpr hspace).symm)
  by_cases hopen : IsQuote first
  · exact .inl ((hquote'.mpr hopen).trans (hquote.mpr hopen).symm)
  by_cases hstart : isNumberStart first = true
  · exact .inl ((hnumber'.mpr hstart).trans (hnumber.mpr hstart).symm)
  rcases hmatches.fixed_or_word hspace hopen hstart with
    hword | ⟨token, htoken, rfl, hchars⟩
  · exact .inr (.inl hword)
  rcases hother.fixed_or_word hspace hopen hstart with
    hword | ⟨token', htoken', rfl, hchars'⟩
  · exact .inr (.inr hword)
  · have htext : token'.text = token.text :=
      String.toList_inj.mp (hchars'.symm.trans hchars)
    rw [fixedTokens_text_injective token' htoken' token htoken htext]
    exact .inl rfl

theorem exists_matches (first : Char) (rest : List Char) :
    ∃ pattern : Pattern, pattern.Matches
      (first :: rest.takeWhile (FilterLanguage.goesOn first)) := by
  by_cases hspace : first = ' '
  · subst hspace
    obtain ⟨count, hcount⟩ := takeWhile_space rest
    have hgoes : FilterLanguage.goesOn ' ' = (· == ' ') := rfl
    rw [hgoes, hcount]
    exact ⟨.gap, count, rfl⟩
  by_cases halone : first = '(' ∨ first = ')' ∨ IsQuote first
  · have hgoes : FilterLanguage.goesOn first = fun _ => false := by
      funext c
      rw [FilterLanguage.goesOn, if_neg hspace, if_pos halone]
    have htail : rest.takeWhile (fun _ => false) = [] := by
      cases rest <;> rfl
    rw [hgoes, htail]
    rcases halone with rfl | rfl | hquote
    · exact ⟨.fixed .groupBegin, by decide, rfl⟩
    · exact ⟨.fixed .groupEnd, by decide, rfl⟩
    · exact ⟨.quote first, hquote, rfl⟩
  · obtain ⟨hopen, hclose, hquote⟩ : first ≠ '(' ∧ first ≠ ')' ∧ ¬ IsQuote first := by
      simpa only [not_or] using halone
    have hrun := isRunChar_iff.mpr ⟨hspace, hopen, hclose⟩
    rw [goesOn_of_isRunChar hrun hquote]
    apply exists_matches_of_run hquote
    intro c hc
    rcases List.mem_cons.mp hc with rfl | hc
    · exact hrun
    · exact List.mem_takeWhile_imp hc

end Pattern

theorem exists_isLongestMatch {text : List Char} (htext : text ≠ []) :
    ∃ pattern chars rest, text = chars ++ rest ∧
      IsLongestMatch pattern chars text := by
  obtain ⟨first, rest, rfl⟩ := List.exists_cons_of_ne_nil htext
  obtain ⟨pattern, hmatches⟩ := Pattern.exists_matches first rest
  have htext : first :: rest = first :: rest.takeWhile (goesOn first) ++
      rest.dropWhile (goesOn first) := by
    rw [List.cons_append, List.takeWhile_append_dropWhile]
  have hstarts : first :: rest.takeWhile (goesOn first) <+: first :: rest :=
    ⟨_, htext.symm⟩
  have hlongest : ∀ (other : Pattern) (chars' : List Char),
      other.Matches chars' → chars' <+: first :: rest →
        chars'.length ≤ (first :: rest.takeWhile (goesOn first)).length :=
    fun _ _ hother => hother.length_le
  by_cases hfixed : ∃ other : Pattern, other ≠ .word ∧
      other.Matches (first :: rest.takeWhile (goesOn first))
  · obtain ⟨other, hword, hother⟩ := hfixed
    refine ⟨other, _, _, htext, hstarts, hother, hlongest, ?_⟩
    intro third hthird
    rcases hother.eq_or_word hthird with heq | heq | heq
    · exact .inl heq
    · exact (hword heq).elim
    · exact .inr heq
  · refine ⟨pattern, _, _, htext, hstarts, hmatches, hlongest, ?_⟩
    intro third hthird
    by_contra hneither
    exact hfixed ⟨third, (not_or.mp hneither).2, hthird⟩

end FilterLanguage
