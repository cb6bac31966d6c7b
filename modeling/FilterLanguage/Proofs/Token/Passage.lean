import FilterLanguage.Proofs.Token.Position

/-!
# Passages

A cursor passes over lexemes as long as it meets no error.  What it passes over
is a piece of the text in which it stands: spaces, and the characters that each
lexeme is written by, under the span of that lexeme.
-/

namespace FilterLanguage

/-- The span marks `chars`, with the rest of the text around them. -/
structure Span.Marks (span : Span) (text before chars after : List Char) :
    Prop where
  text_eq : text = before ++ (chars ++ after)
  span_eq : span = ⟨byteLength before, byteLength before + byteLength chars⟩

/-- A character of the text starts at this offset, or the text ends there. -/
def IsBoundary (text : List Char) (offset : Nat) : Prop :=
  ∃ before after, text = before ++ after ∧ offset = byteLength before

theorem Span.Marks.isBoundary {span : Span}
    {text before chars after : List Char}
    (hmarks : span.Marks text before chars after) :
    IsBoundary text span.start ∧ IsBoundary text span.stop := by
  obtain ⟨rfl, rfl⟩ := hmarks
  refine ⟨⟨before, chars ++ after, rfl, rfl⟩, ⟨before ++ chars, after, ?_, ?_⟩⟩
  · rw [List.append_assoc]
  · rw [byteLength_append]

theorem IsBoundary.le {text : List Char} {offset : Nat}
    (hboundary : IsBoundary text offset) : offset ≤ byteLength text := by
  obtain ⟨before, after, rfl, rfl⟩ := hboundary
  rw [byteLength_append]
  exact Nat.le_add_right _ _

theorem isBoundary_byteLength (text : List Char) :
    IsBoundary text (byteLength text) :=
  ⟨text, [], (List.append_nil text).symm, rfl⟩

namespace Cursor

/-- The cursor stands at its offset in this text. -/
def StandsIn (cursor : Cursor) (text : List Char) : Prop :=
  ∃ front, text = front ++ cursor.rest ∧ cursor.offset = byteLength front

theorem standsIn_ofText (text : String) :
    (ofText text).StandsIn text.toList :=
  ⟨[], rfl, rfl⟩

theorem StandsIn.behind {cursor after : Cursor} {text : List Char}
    (hstands : cursor.StandsIn text) (taken : List Char)
    (hrest : cursor.rest = taken ++ after.rest)
    (hoffset : after.offset = cursor.offset + byteLength taken) :
    after.StandsIn text := by
  obtain ⟨front, htext, hfront⟩ := hstands
  refine ⟨front ++ taken, ?_, ?_⟩
  · rw [htext, hrest, List.append_assoc]
  · rw [hoffset, hfront, byteLength_append]

/-- A step moves a cursor within its text, behind an error too. -/
theorem StandsIn.next {cursor after : Cursor} {text : List Char}
    (hstands : cursor.StandsIn text) (hnext : cursor.next.next? = some after) :
    after.StandsIn text := by
  have hfinds := cursor.next_finds
  generalize cursor.next = scan at hfinds hnext
  cases hfinds with
  | done => cases hnext
  | @lexeme offset gap token chars rest hwritten hends =>
    obtain rfl := Option.some.inj hnext
    exact hstands.behind (spaces gap ++ chars) (by simp)
      (by simp [Nat.add_assoc])
  | @badNumber offset gap first tail rest hrun hends hread =>
    obtain rfl := Option.some.inj hnext
    exact hstands.behind (spaces gap ++ first :: tail) (by simp)
      (by simp [Nat.add_assoc])
  | @badEscape offset gap quote found hquote value rest hbackslash hfound =>
    obtain rfl := Option.some.inj hnext
    exact hstands.behind (spaces gap ++ [quote]) (by simp)
      (by simp [hquote.utf8Size, Nat.add_assoc])
  | @unterminated offset gap quote hquote body hreads =>
    obtain rfl := Option.some.inj hnext
    exact hstands.behind (spaces gap ++ [quote]) (by simp)
      (by simp [hquote.utf8Size, Nat.add_assoc])

/-- A lexeme that is found is written where its span says. -/
theorem StandsIn.marks {cursor after : Cursor} {text : List Char}
    {found : Lexeme} (hstands : cursor.StandsIn text)
    (hnext : cursor.next = .lexeme found after) :
    ∃ before chars, found.span.Marks text before chars after.rest ∧
      found.token.WrittenBy chars := by
  obtain ⟨front, htext, hfront⟩ := hstands
  have hfinds := cursor.next_finds
  rw [hnext] at hfinds
  cases hfinds with
  | @lexeme offset gap token chars rest hwritten hends =>
    refine ⟨front ++ spaces gap, chars, ⟨?_, ?_⟩, hwritten⟩
    · rw [htext, List.append_assoc]
    · rw [byteLength_append, byteLength_spaces, ← hfront]

theorem StandsIn.marks_of_mem_scanAll {cursor : Cursor} {text : List Char}
    {t : Lexeme} (hstands : cursor.StandsIn text) (ht : .ok t ∈ cursor.scanAll) :
    ∃ before chars after, t.span.Marks text before chars after ∧
      t.token.WrittenBy chars := by
  fun_induction scanAll cursor with
  | case1 cursor hnext => cases ht
  | case2 cursor found after hnext ih =>
    rcases List.mem_cons.mp ht with hfound | ht
    · obtain rfl : t = found := by simpa using hfound
      obtain ⟨before, chars, hmarks, hwritten⟩ := hstands.marks hnext
      exact ⟨before, chars, after.rest, hmarks, hwritten⟩
    · exact ih (hstands.next (by rw [hnext]; rfl)) ht
  | case3 cursor e after hnext ih =>
    rcases List.mem_cons.mp ht with hfault | ht
    · cases hfault
    · exact ih (hstands.next (by rw [hnext]; rfl)) ht

/-- Without an error the cursor hands out these lexemes and is left there. -/
inductive Passes : Cursor → List Lexeme → Cursor → Prop
  | nil (cursor : Cursor) : Passes cursor [] cursor
  | cons {cursor next after : Cursor} {found : Lexeme} {lexemes : List Lexeme}
      (hnext : cursor.next = .lexeme found next)
      (hrest : Passes next lexemes after) :
      Passes cursor (found :: lexemes) after

namespace Passes

variable {cursor after : Cursor} {lexemes : List Lexeme}

theorem scanAll (hpasses : cursor.Passes lexemes after) :
    cursor.scanAll = lexemes.map .ok ++ after.scanAll := by
  induction hpasses with
  | nil => rfl
  | cons hnext hrest ih =>
    rw [scanAll_of_lexeme hnext, ih]
    rfl

theorem of_scanAll {more : List (Except ParseError Lexeme)}
    (hscan : cursor.scanAll = lexemes.map .ok ++ more) :
    ∃ after, cursor.Passes lexemes after ∧ after.scanAll = more := by
  induction lexemes generalizing cursor with
  | nil => exact ⟨cursor, .nil cursor, hscan⟩
  | cons found lexemes ih =>
    cases hnext : cursor.next with
    | done =>
      rw [scanAll_of_done hnext] at hscan
      cases hscan
    | lexeme first next =>
      rw [scanAll_of_lexeme hnext] at hscan
      obtain ⟨hfirst, htail⟩ := List.cons.inj hscan
      obtain rfl : first = found := Except.ok.inj hfirst
      obtain ⟨after, hpasses, hmore⟩ := ih htail
      exact ⟨after, .cons hnext hpasses, hmore⟩
    | error e next =>
      rw [scanAll_of_error hnext] at hscan
      cases (List.cons.inj hscan).1

theorem of_yields {tokens : List Token} {rest : Ahead}
    (hyields : cursor.ahead.Yields tokens rest) :
    ∃ (lexemes : List Lexeme) (after : Cursor),
      cursor.Passes lexemes after ∧ lexemes.map Lexeme.token = tokens ∧
        after.ahead = rest := by
  induction tokens generalizing cursor with
  | nil => exact ⟨[], cursor, .nil cursor, rfl, Ahead.yields_nil_iff.mp hyields⟩
  | cons token tokens ih =>
    obtain ⟨found, behind, hahead, rfl, hbehind⟩ :=
      Ahead.yields_cons_iff.mp hyields
    obtain ⟨next, hnext, rfl⟩ := next_of_ahead_lexeme hahead
    obtain ⟨lexemes, after, hpasses, rfl, hafter⟩ := ih hbehind
    exact ⟨found :: lexemes, after, .cons hnext hpasses, rfl, hafter⟩

theorem limit (hpasses : cursor.Passes lexemes after) :
    after.limit = cursor.limit := by
  induction hpasses with
  | nil => rfl
  | @cons cursor next after found lexemes hnext hrest ih =>
    have htells := cursor.next_tells
    rw [hnext] at htells
    exact ih.trans htells.2.2.2

theorem standsIn {text : List Char} (hpasses : cursor.Passes lexemes after)
    (hstands : cursor.StandsIn text) : after.StandsIn text := by
  induction hpasses with
  | nil => exact hstands
  | cons hnext hrest ih =>
    exact ih (hstands.next (by rw [hnext]; rfl))

end Passes

/-- The lexemes ahead come first among all that is found. -/
theorem scanAll_of_yields {cursor : Cursor} {tokens : List Token} {rest : Ahead}
    (hyields : cursor.ahead.Yields tokens rest) :
    ∃ (lexemes : List Lexeme) (after : Cursor),
      lexemes.map Lexeme.token = tokens ∧ after.ahead = rest ∧
        cursor.scanAll = lexemes.map .ok ++ after.scanAll ∧
        after.limit = cursor.limit := by
  obtain ⟨lexemes, after, hpasses, htokens, hafter⟩ := Passes.of_yields hyields
  exact ⟨lexemes, after, htokens, hafter, hpasses.scanAll, hpasses.limit⟩

end Cursor

end FilterLanguage
