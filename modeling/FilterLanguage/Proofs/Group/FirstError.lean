import FilterLanguage.Proofs.Group.Failure
import FilterLanguage.Proofs.Token.Passage

/-!
# The first error

A text that is not parsed is faulted at the first possible place.  What stands
before that place is the beginning of some filter, so the error comes no sooner
than it has to; and with what stands there it is so no longer, so the error
comes no later.
-/

namespace FilterLanguage

/-- The error is the first one that is there to find in the text. -/
structure IsFirstError (text : String) (e : ParseError) : Prop where
  /-- An error in a single token is the first one that scanning meets. -/
  lexical : e.kind.isLexical = true →
    ∃ (before : List Lexeme) (after : List (Except ParseError Lexeme)),
      (Cursor.ofText text).scanAll = before.map .ok ++ .error e :: after ∧
        IsBeginning (before.map Lexeme.token)
  /-- A token that is blamed is the first one that no filter can go on with. -/
  token : ∀ (before : List (Except ParseError Lexeme)) (t : Lexeme)
      (after : List (Except ParseError Lexeme)), e.kind.blamesToken = true →
    (Cursor.ofText text).scanAll = before ++ .ok t :: after → e.span = t.span →
      ∃ lexemes : List Lexeme, before = lexemes.map .ok ∧
        IsBeginning (lexemes.map Lexeme.token) ∧
        ¬ IsBeginning (lexemes.map Lexeme.token ++ [t.token])
  /-- The text may be faulted at its end only if a filter goes on from there. -/
  ended : e.kind.isExpectation = true ∧
        e.span = .point (byteLength text.toList) ∨ e.kind = .unclosedGroup →
      ∃ lexemes : List Lexeme,
        (Cursor.ofText text).scanAll = lexemes.map .ok ∧
        ¬ IsSentence (lexemes.map Lexeme.token) ∧
        ∃ more, more ≠ [] ∧ IsSentence (lexemes.map Lexeme.token ++ more)
  /-- It is one of these. -/
  somewhere : e.kind.isLexical = true ∨
    (e.kind.blamesToken = true ∧
      ∃ t, .ok t ∈ (Cursor.ofText text).scanAll ∧ e.span = t.span) ∨
    (e.kind.isExpectation = true ∧
      e.span = .point (byteLength text.toList)) ∨
    e.kind = .unclosedGroup

namespace ParseErrorKind

variable {kind : ParseErrorKind}

theorem blamesToken_of_isLexical (hkind : kind.isLexical = true) :
    kind.blamesToken = false := by
  cases kind <;> first | rfl | cases hkind

theorem isLexical_of_isExpectation (hkind : kind.isExpectation = true) :
    kind.isLexical = false := by
  cases kind <;> first | rfl | cases hkind

theorem isLexical_of_blamesToken (hkind : kind.blamesToken = true) :
    kind.isLexical = false := by
  cases kind <;> first | rfl | cases hkind

end ParseErrorKind

theorem span_ne_point {cursor : Cursor} {t : Lexeme} {offset : Nat}
    (ht : .ok t ∈ cursor.scanAll) : t.span ≠ .point offset := by
  intro hspan
  have hwidth := (Cursor.span_of_mem_scanAll ht).2.1
  rw [hspan] at hwidth
  exact Nat.lt_irrefl _ hwidth

namespace IsFirstError

variable {text : String} {e : ParseError} {lexemes : List Lexeme}
  {after : Cursor}

theorem of_fault
    (hscan : (Cursor.ofText text).scanAll = lexemes.map .ok ++ after.scanAll)
    (hbeginning : IsBeginning (lexemes.map Lexeme.token))
    (hafter : after.ahead = .fault e) : IsFirstError text e := by
  obtain ⟨next, hnext⟩ := Cursor.next_of_ahead_fault hafter
  have htells := after.next_tells
  rw [hnext] at htells
  have hlexical : e.kind.isLexical = true := htells.2.2
  rw [Cursor.scanAll_of_error hnext] at hscan
  refine ⟨fun _ => ⟨lexemes, next.scanAll, hscan, hbeginning⟩, ?_, ?_,
    .inl hlexical⟩
  · intro before t after' hkind
    rw [ParseErrorKind.blamesToken_of_isLexical hlexical] at hkind
    cases hkind
  · rintro (⟨hkind, -⟩ | hkind)
    · rw [ParseErrorKind.isLexical_of_isExpectation hkind] at hlexical
      cases hlexical
    · rw [hkind] at hlexical
      cases hlexical

theorem of_lexeme {found : Lexeme} {behind : Ahead}
    (hscan : (Cursor.ofText text).scanAll = lexemes.map .ok ++ after.scanAll)
    (hbeginning : IsBeginning (lexemes.map Lexeme.token))
    (hafter : after.ahead = .lexeme found behind)
    (hkind : e.kind.blamesToken = true) (hspan : e.span = found.span)
    (hbarred : ¬ IsBeginning (lexemes.map Lexeme.token ++ [found.token])) :
    IsFirstError text e := by
  obtain ⟨next, hnext, -⟩ := Cursor.next_of_ahead_lexeme hafter
  rw [Cursor.scanAll_of_lexeme hnext] at hscan
  have hfound : .ok found ∈ (Cursor.ofText text).scanAll := by simp [hscan]
  refine ⟨?_, ?_, ?_, .inr (.inl ⟨hkind, found, hfound, hspan⟩)⟩
  · intro hlexical
    rw [ParseErrorKind.isLexical_of_blamesToken hkind] at hlexical
    cases hlexical
  · intro before t after' _ ht hspan'
    obtain ⟨rfl, rfl⟩ :=
      Cursor.eq_of_span_eq hscan ht (hspan.symm.trans hspan')
    exact ⟨lexemes, rfl, hbeginning, hbarred⟩
  · rintro (⟨-, hpoint⟩ | hunclosed)
    · exact (span_ne_point hfound (hspan.symm.trans hpoint)).elim
    · rw [hunclosed] at hkind
      cases hkind

theorem of_ended
    (hscan : (Cursor.ofText text).scanAll = lexemes.map .ok)
    (hbeginning : IsBeginning (lexemes.map Lexeme.token))
    (hsentence : ¬ IsSentence (lexemes.map Lexeme.token))
    (hkind : e.kind = .unclosedGroup ∨ e.kind.isExpectation = true ∧
      e.span = .point (byteLength text.toList)) : IsFirstError text e := by
  refine ⟨?_, ?_, ?_, ?_⟩
  · intro hlexical
    rcases hkind with hkind | ⟨hkind, -⟩
    · rw [hkind] at hlexical
      cases hlexical
    · rw [ParseErrorKind.isLexical_of_isExpectation hkind] at hlexical
      cases hlexical
  · intro before t after' hblames ht hspan
    have hmem : .ok t ∈ (Cursor.ofText text).scanAll := by simp [ht]
    rcases hkind with hkind | ⟨-, hpoint⟩
    · rw [hkind] at hblames
      cases hblames
    · exact (span_ne_point hmem (hspan.symm.trans hpoint)).elim
  · intro _
    refine ⟨lexemes, hscan, hsentence, ?_⟩
    obtain ⟨sentence, hfull, more, rfl⟩ := hbeginning
    refine ⟨more, ?_, hfull⟩
    rintro rfl
    rw [List.append_nil] at hfull
    exact hsentence hfull
  · rcases hkind with hkind | hkind
    · exact .inr (.inr (.inr hkind))
    · exact .inr (.inr (.inl hkind))

end IsFirstError

namespace Group

/-- Without a limit on nesting, every parse error is the first one. -/
theorem parseWithin_none_isFirstError {text : String} {e : ParseError}
    (hparse : parseWithin none text = .error (.parse e)) :
    IsFirstError text e := by
  obtain ⟨tokens, rest, hyields, hbeginning, hblames⟩ :=
    Parser.root_error hparse
  have hcursor : (Cursor.ofText text).ahead.Yields tokens rest := hyields
  obtain ⟨lexemes, after, rfl, hafter, hscan, -⟩ :=
    Cursor.scanAll_of_yields hcursor
  cases rest with
  | fault first =>
    obtain rfl : first = e := hblames
    exact .of_fault hscan hbeginning hafter
  | lexeme found behind =>
    obtain ⟨hkind, hspan, hbarred⟩ := hblames
    exact .of_lexeme hscan hbeginning hafter hkind hspan hbarred
  | ended =>
    have hdone := Cursor.next_of_ahead_ended hafter
    rw [Cursor.scanAll_of_done hdone, List.append_nil] at hscan
    refine .of_ended hscan hbeginning ?_ ?_
    · intro hsentence
      obtain ⟨g, hg, htokens⟩ := isSentence_iff.mp hsentence
      rw [← htokens] at hcursor
      have hparsed : parseWithin none text = .ok g :=
        parseWithin_of_scans hg (g.fitsWithin_none 0)
          (Cursor.scans_iff_yields.mpr hcursor)
      rw [hparsed] at hparse
      cases hparse
    · rw [← limit_ofText]
      exact hblames

theorem parseWithin_none_missing_connective :
    let e : ParseError :=
      ⟨.expectedConnective, ⟨9, 10⟩,
        "expected logical AND or OR, found `c`"⟩
    parseWithin none "(a eq b) c eq 1" = .error (.parse e) ∧
      IsBeginning [.groupBegin, .reference "a", .reference "eq",
        .reference "b", .groupEnd] ∧
      ¬ IsBeginning [.groupBegin, .reference "a", .reference "eq",
        .reference "b", .groupEnd, .reference "c"] := by
  intro e
  have hparse : parseWithin none "(a eq b) c eq 1" = .error (.parse e) := by
    decide +kernel
  let read : List Lexeme :=
    [⟨.groupBegin, ⟨0, 1⟩⟩, ⟨.reference "a", ⟨1, 2⟩⟩,
      ⟨.reference "eq", ⟨3, 5⟩⟩, ⟨.reference "b", ⟨6, 7⟩⟩, ⟨.groupEnd, ⟨7, 8⟩⟩]
  have hscan : (Cursor.ofText "(a eq b) c eq 1").scanAll =
      read.map .ok ++ .ok ⟨.reference "c", ⟨9, 10⟩⟩ ::
        (Cursor.mk 10 " eq 1".toList).scanAll := by
    decide +kernel
  have hfirst := parseWithin_none_isFirstError hparse
  obtain ⟨lexemes, hlexemes, hbeginning, hbarred⟩ :=
    hfirst.token (read.map .ok) _ _ rfl hscan rfl
  obtain rfl : read = lexemes :=
    (List.map_inj_right fun _ _ => Except.ok.inj).mp hlexemes
  exact ⟨hparse, hbeginning, hbarred⟩

end Group

end FilterLanguage
