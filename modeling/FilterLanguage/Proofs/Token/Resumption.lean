import FilterLanguage.Proofs.Group.Moved
import FilterLanguage.Proofs.Token.Passage

/-!
# Going on behind errors

The scanner can be called again after an error.  Every call that returns
something moves it on by a byte or more, so the end of input is reached.  It
knows the text in front of it and its offset, and copies the offset into spans
only.  So from behind any result it scans as it would scan the rest of the text
by itself, with the spans moved; nothing is left of a string literal that failed
but the place behind its opening quote.
-/

namespace FilterLanguage

/-- What is found, with its positions changed. -/
def moveResult (f : ℕ → ℕ) : Except ParseError Lexeme → Except ParseError Lexeme
  | .ok found => .ok (found.move f)
  | .error e => .error (e.move f)

def Cursor.move (f : ℕ → ℕ) (cursor : Cursor) : Cursor :=
  ⟨f cursor.offset, cursor.rest⟩

def Scan.move (f : ℕ → ℕ) : Scan → Scan
  | .done => .done
  | .lexeme found next => .lexeme (found.move f) (next.move f)
  | .error e next => .error (e.move f) (next.move f)

namespace Cursor

variable {cursor after : Cursor} {text : List Char}
  {result : Except ParseError Lexeme}
  {results : List (Except ParseError Lexeme)}

/-! ## The offset does not matter -/

theorem Finds.move {scan : Scan} (hfinds : cursor.Finds scan) (shift : ℕ) :
    (cursor.move (shift + ·)).Finds (scan.move (shift + ·)) := by
  cases hfinds with
  | done offset gap => exact .done (shift + offset) gap
  | lexeme offset gap hwritten hends =>
    have hmoved := Finds.lexeme (shift + offset) gap hwritten hends
    simpa [Cursor.move, Scan.move, Lexeme.move, Span.move, Nat.add_assoc]
      using hmoved
  | badNumber offset gap hrun hends hread =>
    have hmoved := Finds.badNumber (shift + offset) gap hrun hends hread
    simpa [Cursor.move, Scan.move, ParseError.move, ParseError.found, Span.move,
      Nat.add_assoc] using hmoved
  | badEscape offset gap hquote value rest hbackslash hfound =>
    have hmoved :=
      Finds.badEscape (shift + offset) gap hquote value rest hbackslash hfound
    simpa [Cursor.move, Scan.move, ParseError.move, ParseError.found, Span.move,
      Nat.add_assoc] using hmoved
  | unterminated offset gap hquote hreads =>
    have hmoved := Finds.unterminated (shift + offset) gap hquote hreads
    simpa [Cursor.move, Scan.move, ParseError.move, ParseError.ofKind,
      Span.move, Nat.add_assoc] using hmoved

theorem next_move (cursor : Cursor) (shift : ℕ) :
    (cursor.move (shift + ·)).next = cursor.next.move (shift + ·) :=
  (cursor.next_finds.move shift).next_eq

theorem scanAll_move (cursor : Cursor) (shift : ℕ) :
    (cursor.move (shift + ·)).scanAll =
      cursor.scanAll.map (moveResult (shift + ·)) := by
  fun_induction scanAll cursor with
  | case1 cursor hnext =>
    have hmoved := cursor.next_move shift
    rw [hnext] at hmoved
    rw [scanAll_of_done hmoved, List.map_nil]
  | case2 cursor found after hnext ih =>
    have hmoved := cursor.next_move shift
    rw [hnext] at hmoved
    rw [scanAll_of_lexeme hmoved, ih, List.map_cons, moveResult]
  | case3 cursor e after hnext ih =>
    have hmoved := cursor.next_move shift
    rw [hnext] at hmoved
    rw [scanAll_of_error hmoved, ih, List.map_cons, moveResult]

/-! ## Calls -/

/-- A call returns this lexeme or error and leaves the cursor there. -/
inductive Returns (cursor : Cursor) :
    Except ParseError Lexeme → Cursor → Prop
  | lexeme {found : Lexeme} {after : Cursor}
      (hnext : cursor.next = .lexeme found after) :
      Returns cursor (.ok found) after
  | error {e : ParseError} {after : Cursor}
      (hnext : cursor.next = .error e after) :
      Returns cursor (.error e) after

/-- Calls one after the other, errors or not, return these results and leave the
cursor there. -/
inductive Gives : Cursor → List (Except ParseError Lexeme) → Cursor → Prop
  | nil (cursor : Cursor) : Gives cursor [] cursor
  | cons {cursor next after : Cursor} {result : Except ParseError Lexeme}
      {results : List (Except ParseError Lexeme)}
      (hfirst : cursor.Returns result next)
      (hrest : Gives next results after) :
      Gives cursor (result :: results) after

theorem Returns.next? (hreturns : cursor.Returns result after) :
    cursor.next.next? = some after := by
  cases hreturns with
  | lexeme hnext => rw [hnext, Scan.next?]
  | error hnext => rw [hnext, Scan.next?]

/-- A call moves on by a byte at least, and not behind the end. -/
theorem Returns.progress (hreturns : cursor.Returns result after) :
    cursor.offset < after.offset ∧ after.limit = cursor.limit := by
  have htells := cursor.next_tells
  cases hreturns with
  | lexeme hnext =>
    rw [hnext] at htells
    obtain ⟨hstart, hwidth, hstop, hlimit⟩ := htells
    exact ⟨by omega, hlimit⟩
  | error hnext =>
    rw [hnext] at htells
    exact ⟨htells.1, htells.2.1⟩

theorem Gives.length_le (hgives : cursor.Gives results after) :
    cursor.offset + results.length ≤ after.offset ∧
      after.limit = cursor.limit := by
  induction hgives with
  | nil cursor => exact ⟨Nat.le_refl _, rfl⟩
  | cons hfirst hrest ih =>
    obtain ⟨hstep, hlimit⟩ := hfirst.progress
    rw [List.length_cons]
    exact ⟨by omega, ih.2.trans hlimit⟩

theorem Gives.standsIn (hgives : cursor.Gives results after)
    (hstands : cursor.StandsIn text) : after.StandsIn text := by
  induction hgives with
  | nil => exact hstands
  | cons hfirst hrest ih => exact ih (hstands.next hfirst.next?)

/-- Calling again and again gives everything there is, and ends. -/
theorem exists_gives_scanAll (cursor : Cursor) :
    ∃ last, cursor.Gives cursor.scanAll last ∧ last.next = .done := by
  fun_induction scanAll cursor with
  | case1 cursor hnext => exact ⟨cursor, .nil cursor, hnext⟩
  | case2 cursor found after hnext ih =>
    obtain ⟨last, hgives, hdone⟩ := ih
    exact ⟨last, .cons (.lexeme hnext) hgives, hdone⟩
  | case3 cursor e after hnext ih =>
    obtain ⟨last, hgives, hdone⟩ := ih
    exact ⟨last, .cons (.error hnext) hgives, hdone⟩

/-! ## Where scanning goes on -/

/-- The place behind a result: that behind a token or a bad number, and that
behind the opening quote of a bad string literal. -/
inductive ResumesAt (cursor : Cursor) : Except ParseError Lexeme → ℕ → Prop
  | token (found : Lexeme) : ResumesAt cursor (.ok found) found.span.stop
  | number {e : ParseError} (hkind : e.kind = .invalidNumber) :
      ResumesAt cursor (.error e) e.span.stop
  | string {e : ParseError} {gap : ℕ} {quote : Char} {body : List Char}
      (hkind : e.kind = .invalidEscape ∨ e.kind = .unterminatedString)
      (hquote : IsQuote quote)
      (hrest : cursor.rest = spaces gap ++ quote :: body) :
      ResumesAt cursor (.error e) (cursor.offset + gap + 1)

theorem Returns.resumesAt (hreturns : cursor.Returns result after) :
    cursor.ResumesAt result after.offset := by
  have hfinds := cursor.next_finds
  cases hreturns with
  | lexeme hnext =>
    rw [hnext] at hfinds
    cases hfinds with
    | lexeme offset gap hwritten hends => exact .token _
  | error hnext =>
    rw [hnext] at hfinds
    cases hfinds with
    | badNumber offset gap hrun hends hread => exact .number rfl
    | badEscape offset gap hquote value rest hbackslash hfound =>
      exact .string (.inl rfl) hquote rfl
    | unterminated offset gap hquote hreads =>
      exact .string (.inr rfl) hquote rfl

/-- A result has one place to go on from. -/
theorem ResumesAt.unique {p q : ℕ} (hp : cursor.ResumesAt result p)
    (hq : cursor.ResumesAt result q) : p = q := by
  cases hp with
  | token found =>
    cases hq with
    | token => rfl
  | number hkind =>
    cases hq with
    | number => rfl
    | string hkind' => simp [hkind] at hkind'
  | string hkind hquote hrest =>
    cases hq with
    | number hkind' => simp [hkind'] at hkind
    | string _ hquote' hrest' =>
      rw [hrest] at hrest'
      obtain ⟨rfl, -⟩ :=
        spaces_append_cancel hquote.ne.2.1 hquote'.ne.2.1 hrest'
      rfl

/-- A place in a text has one text behind it. -/
theorem eq_of_append_of_byteLength {front back front' back' : List Char}
    (hlength : byteLength front = byteLength front')
    (htext : front ++ back = front' ++ back') : back = back' := by
  have hpos : ∀ c : Char, 0 < c.utf8Size := Char.utf8Size_pos
  induction front generalizing front' with
  | nil =>
    cases front' with
    | nil => exact htext
    | cons c' front' =>
      rw [byteLength_nil, byteLength_cons] at hlength
      have := hpos c'
      omega
  | cons c front ih =>
    cases front' with
    | nil =>
      rw [byteLength_nil, byteLength_cons] at hlength
      have := hpos c
      omega
    | cons c' front' =>
      obtain ⟨rfl, htail⟩ := List.cons.inj htext
      rw [byteLength_cons, byteLength_cons] at hlength
      exact ih (by omega) htail

/-- Calls come to the end of input after no more results than the text has
bytes.  Behind each result scanning goes on from one place, which lies behind
the place of the call and between two characters, and what is found from there on
is what the rest of the text gives by itself, with the positions moved. -/
theorem scanAll_resumes (text : String) :
    (∃ last, (ofText text).Gives (ofText text).scanAll last ∧
      last.next = .done ∧
        (ofText text).scanAll.length ≤ byteLength text.toList) ∧
    ∀ results cursor result after, (ofText text).Gives results cursor →
      cursor.Returns result after →
        ∃ front back, text.toList = front ++ back ∧
          (∀ p, cursor.ResumesAt result p ↔ p = byteLength front) ∧
          cursor.offset < byteLength front ∧
          after.scanAll = (ofText (String.ofList back)).scanAll.map
            (moveResult (byteLength front + ·)) := by
  constructor
  · obtain ⟨last, hgives, hdone⟩ := exists_gives_scanAll (ofText text)
    obtain ⟨hlength, hlimit⟩ := hgives.length_le
    have hbound : last.offset ≤ last.limit := Nat.le_add_right _ _
    rw [hlimit, limit_ofText] at hbound
    exact ⟨last, hgives, hdone, by omega⟩
  · intro results cursor result after hgives hreturns
    have hstands := (hgives.standsIn (standsIn_ofText text)).next hreturns.next?
    obtain ⟨front, htext, hoffset⟩ := hstands
    refine ⟨front, after.rest, htext, ?_, ?_, ?_⟩
    · intro p
      rw [← hoffset]
      constructor
      · intro hp
        exact hp.unique hreturns.resumesAt
      · rintro rfl
        exact hreturns.resumesAt
    · rw [← hoffset]
      exact hreturns.progress.1
    · rw [← scanAll_move, ofText, String.toList_ofList, Cursor.move, ← hoffset]
      rfl

/-- Both quotes open a literal that fails at the same bad escape, one inside the
other. -/
theorem scanAll_resumes_nested :
    let text := "'é \"b\\c 1x"
    let rest := "é \"b\\c 1x"
    let e := ParseError.found .invalidEscape ⟨6, 8⟩ "`c`"
    (ofText text).scanAll =
        [.error e, .ok ⟨.reference "é", ⟨1, 3⟩⟩, .error e,
          .ok ⟨.reference "b\\c", ⟨5, 8⟩⟩,
          .error (.found .invalidNumber ⟨9, 11⟩ "`1x`")] ∧
      (ofText text).scanAll.length ≤ byteLength text.toList ∧
      (ofText text).ResumesAt (.error e) 1 ∧
      ∃ after, (ofText text).Returns (.error e) after ∧
        after.scanAll = (ofText rest).scanAll.map (moveResult (1 + ·)) := by
  have hquoted : "'é \"b\\c 1x".toList = '\'' :: "é \"b\\c 1x".toList := rfl
  have hbody : "é \"b\\c 1x".toList =
      Quoted.escape '\'' "é \"b".toList ++ '\\' :: 'c' :: " 1x".toList := rfl
  intro text rest e
  obtain ⟨⟨last, -, -, hlength⟩, hresumes⟩ := scanAll_resumes text
  have hfinds : (ofText text).Finds (.error e ⟨1, rest.toList⟩) := by
    rw [ofText, hquoted, hbody]
    exact .badEscape 0 0 (.inr rfl) "é \"b".toList " 1x".toList (by decide)
      (by decide)
  have hreturns : (ofText text).Returns (.error e) ⟨1, rest.toList⟩ :=
    .error hfinds.next_eq
  have hplace : (ofText text).ResumesAt (.error e) 1 := hreturns.resumesAt
  obtain ⟨front, back, htext, honly, -, hlater⟩ :=
    hresumes [] _ _ _ (.nil _) hreturns
  have hfront : byteLength ['\''] = byteLength front := (honly 1).mp hplace
  have hback : rest.toList = back :=
    eq_of_append_of_byteLength hfront (hquoted.symm.trans htext)
  rw [← hback, String.ofList_toList, ← hfront] at hlater
  exact ⟨by decide +kernel, hlength, hplace, _, hreturns, hlater⟩

end Cursor

end FilterLanguage
