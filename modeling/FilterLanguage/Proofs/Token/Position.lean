import FilterLanguage.Proofs.Token.Step

/-!
# Positions

Scanning moves through a text from left to right.  A lexeme takes at least one
byte, and what is found behind it starts where it stops or later, so that a
lexeme of a text is known by its span.  The limit of a cursor never changes.
-/

namespace FilterLanguage

namespace Cursor

/-- What a scan tells about the positions before and behind it. -/
def NextTells (cursor : Cursor) : Scan → Prop
  | .done => True
  | .lexeme found after =>
    cursor.offset ≤ found.span.start ∧ found.span.start < found.span.stop ∧
      found.span.stop = after.offset ∧ after.limit = cursor.limit
  | .error e after =>
    cursor.offset < after.offset ∧ after.limit = cursor.limit ∧
      e.kind.isLexical = true

theorem Finds.tells {cursor : Cursor} {scan : Scan}
    (hfinds : cursor.Finds scan) : cursor.NextTells scan := by
  cases hfinds with
  | done => trivial
  | lexeme offset gap hwritten hends =>
    have hpos := hwritten.byteLength_pos
    simp only [NextTells, limit, byteLength_append, byteLength_spaces]
    exact ⟨by omega, by omega, trivial, by omega⟩
  | @badNumber offset gap first tail rest hrun hends hread =>
    have hsize := first.utf8Size_pos
    simp only [NextTells, limit, byteLength_append, byteLength_spaces,
      byteLength_cons]
    exact ⟨by omega, by omega, rfl⟩
  | badEscape offset gap hquote =>
    have hsize := hquote.utf8Size
    simp only [NextTells, limit, byteLength_append, byteLength_spaces,
      byteLength_cons]
    exact ⟨by omega, by omega, rfl⟩
  | unterminated offset gap hquote =>
    have hsize := hquote.utf8Size
    simp only [NextTells, limit, byteLength_append, byteLength_spaces,
      byteLength_cons]
    exact ⟨by omega, by omega, rfl⟩

theorem next_tells (cursor : Cursor) : cursor.NextTells cursor.next :=
  cursor.next_finds.tells

/-! ## Everything that is found -/

theorem scanAll_of_done {cursor : Cursor} (hnext : cursor.next = .done) :
    cursor.scanAll = [] := by
  rw [scanAll]
  split <;> simp_all

theorem scanAll_of_lexeme {cursor after : Cursor} {found : Lexeme}
    (hnext : cursor.next = .lexeme found after) :
    cursor.scanAll = .ok found :: after.scanAll := by
  rw [scanAll]
  split <;> simp_all

theorem scanAll_of_error {cursor after : Cursor} {e : ParseError}
    (hnext : cursor.next = .error e after) :
    cursor.scanAll = .error e :: after.scanAll := by
  rw [scanAll]
  split <;> simp_all

theorem next_of_scanAll_nil {cursor : Cursor} (hscan : cursor.scanAll = []) :
    cursor.next = .done := by
  cases hnext : cursor.next with
  | done => rfl
  | lexeme found after => simp [scanAll_of_lexeme hnext] at hscan
  | error e after => simp [scanAll_of_error hnext] at hscan

theorem next_of_ahead_ended {cursor : Cursor} (hahead : cursor.ahead = .ended) :
    cursor.next = .done := by
  cases hnext : cursor.next with
  | done => rfl
  | lexeme found after => simp [ahead_of_lexeme hnext] at hahead
  | error e after => simp [ahead_of_error hnext] at hahead

theorem next_of_ahead_fault {cursor : Cursor} {e : ParseError}
    (hahead : cursor.ahead = .fault e) :
    ∃ after, cursor.next = .error e after := by
  cases hnext : cursor.next with
  | done => simp [ahead_of_done hnext] at hahead
  | lexeme found after => simp [ahead_of_lexeme hnext] at hahead
  | error e' after =>
    rw [ahead_of_error hnext, Ahead.fault.injEq] at hahead
    rw [hahead]
    exact ⟨after, rfl⟩

/-- The lexemes that a cursor comes upon lie between it and the end. -/
theorem span_of_mem_scanAll {cursor : Cursor} {found : Lexeme}
    (hfound : .ok found ∈ cursor.scanAll) :
    cursor.offset ≤ found.span.start ∧ found.span.start < found.span.stop ∧
      found.span.stop ≤ cursor.limit := by
  fun_induction scanAll cursor with
  | case1 cursor hnext => cases hfound
  | case2 cursor first after hnext ih =>
    have htells := cursor.next_tells
    rw [hnext] at htells
    obtain ⟨hstart, hstop, hafter, hlimit⟩ := htells
    rcases List.mem_cons.mp hfound with hfirst | hrest
    · obtain rfl : found = first := by simpa using hfirst
      have hle : after.offset ≤ after.limit := Nat.le_add_right _ _
      omega
    · have hspan := ih hrest
      omega
  | case3 cursor e after hnext ih =>
    have htells := cursor.next_tells
    rw [hnext] at htells
    obtain ⟨hafter, hlimit, -⟩ := htells
    rcases List.mem_cons.mp hfound with hfirst | hrest
    · cases hfirst
    · have hspan := ih hrest
      omega

/-- What is found later lies behind. -/
theorem scanAll_pairwise (cursor : Cursor) :
    cursor.scanAll.Pairwise fun x y => ∀ s t : Lexeme, x = .ok s → y = .ok t →
      s.span.stop ≤ t.span.start := by
  fun_induction scanAll cursor with
  | case1 cursor hnext => exact .nil
  | case2 cursor first after hnext ih =>
    have htells := cursor.next_tells
    rw [hnext] at htells
    refine List.pairwise_cons.mpr ⟨?_, ih⟩
    rintro y hy s t hs rfl
    obtain rfl : first = s := by simpa using hs
    rw [htells.2.2.1]
    exact (span_of_mem_scanAll hy).1
  | case3 cursor e after hnext ih =>
    refine List.pairwise_cons.mpr ⟨?_, ih⟩
    rintro y hy s t hs
    cases hs

/-- A lexeme that is found in front of another has another span. -/
theorem span_ne_of_scanAll {cursor : Cursor}
    {before between after : List (Except ParseError Lexeme)} {s t : Lexeme}
    (hscan : cursor.scanAll = before ++ .ok s :: (between ++ .ok t :: after)) :
    s.span ≠ t.span := by
  have hmem : .ok s ∈ cursor.scanAll := by simp [hscan]
  have hwidth := (span_of_mem_scanAll hmem).2.1
  have hpairwise := cursor.scanAll_pairwise
  rw [hscan] at hpairwise
  have hrest := (List.pairwise_append.mp hpairwise).2.1
  have hbehind := (List.pairwise_cons.mp hrest).1 (.ok t) (by simp) s t rfl rfl
  intro hspan
  rw [hspan] at hwidth hbehind
  omega

/-- The place of a lexeme among all that is found is told by its span. -/
theorem eq_of_span_eq {cursor : Cursor}
    {before before' after after' : List (Except ParseError Lexeme)}
    {s t : Lexeme} (hs : cursor.scanAll = before ++ .ok s :: after)
    (ht : cursor.scanAll = before' ++ .ok t :: after')
    (hspan : s.span = t.span) : before = before' ∧ s = t := by
  have heq : before ++ .ok s :: after = before' ++ .ok t :: after' :=
    hs.symm.trans ht
  rcases List.append_eq_append_iff.mp heq with ⟨gap, hgap, hrest⟩ |
    ⟨gap, hgap, hrest⟩
  · cases gap with
    | nil => simp_all
    | cons x gap =>
      obtain ⟨rfl, rfl⟩ := List.cons.inj hrest
      exact (span_ne_of_scanAll hs hspan).elim
  · cases gap with
    | nil => simp_all
    | cons x gap =>
      obtain ⟨rfl, rfl⟩ := List.cons.inj hrest
      exact (span_ne_of_scanAll ht hspan.symm).elim

end Cursor

/-! ## Limits of feeds -/

theorem limit_ofText (text : String) :
    (Cursor.ofText text).limit = byteLength text.toList :=
  Nat.zero_add _

namespace Feed

theorem limit_of_pull {cursor after : Cursor} {found : Option Lexeme}
    (hpull : pull cursor = .ok (found, after)) : after.limit = cursor.limit := by
  have htells := cursor.next_tells
  unfold pull at hpull
  split at hpull
  next hnext =>
    simp only [Except.ok.injEq, Prod.mk.injEq] at hpull
    rw [← hpull.2]
  next first next hnext =>
    rw [hnext] at htells
    simp only [Except.ok.injEq, Prod.mk.injEq] at hpull
    rw [← hpull.2]
    exact htells.2.2.2
  next => simp at hpull

theorem limit_of_bump {feed after : Feed} {found : Option Lexeme}
    (hbump : feed.bump = .ok (found, after)) : after.limit = feed.limit := by
  unfold bump at hbump
  split at hbump
  next =>
    simp only [Except.ok.injEq, Prod.mk.injEq] at hbump
    obtain ⟨-, rfl⟩ := hbump
    rfl
  next =>
    split at hbump
    next pulled cursor hpull =>
      simp only [Except.ok.injEq, Prod.mk.injEq] at hbump
      obtain ⟨-, rfl⟩ := hbump
      exact limit_of_pull hpull
    next => simp at hbump

theorem limit_of_peek {feed after : Feed} {found : Option Lexeme}
    (hpeek : feed.peek = .ok (found, after)) : after.limit = feed.limit := by
  unfold peek at hpeek
  split at hpeek
  next =>
    simp only [Except.ok.injEq, Prod.mk.injEq] at hpeek
    obtain ⟨-, rfl⟩ := hpeek
    rfl
  next =>
    split at hpeek
    next pulled cursor hpull =>
      simp only [Except.ok.injEq, Prod.mk.injEq] at hpeek
      obtain ⟨-, rfl⟩ := hpeek
      exact limit_of_pull hpull
    next => simp at hpeek

theorem limit_of_look_ended {feed : Feed} {after : feed.AtMost}
    (hlook : feed.look = .ok (.ended after)) :
    after.val.limit = feed.limit := by
  unfold look at hlook
  split at hlook
  next => simp at hlook
  next last hpeek =>
    simp only [Except.ok.injEq, Sight.ended.injEq] at hlook
    rw [← hlook]
    exact limit_of_peek hpeek
  next => simp at hlook

theorem limit_of_look_lexeme {feed : Feed} {found : Lexeme}
    {before : feed.AtMost} {behind : feed.Later}
    (hlook : feed.look = .ok (.lexeme found before behind)) :
    before.val.limit = feed.limit ∧ behind.val.limit = feed.limit := by
  unfold look at hlook
  split at hlook
  next => simp at hlook
  next => simp at hlook
  next first last hpeek =>
    have hlimit := limit_of_peek hpeek
    simp only [Except.ok.injEq, Sight.lexeme.injEq] at hlook
    obtain ⟨-, rfl, rfl⟩ := hlook
    exact ⟨hlimit, hlimit⟩

theorem limit_of_expect {α : Type} {feed : Feed} {kind : ParseErrorKind}
    {read? : Token → Option α} {value : α} {after : feed.Later}
    (hexpect : feed.expect kind read? = .ok (value, after)) :
    after.val.limit = feed.limit := by
  unfold expect at hexpect
  split at hexpect
  next => simp at hexpect
  next => simp at hexpect
  next found last hbump =>
    split at hexpect
    next =>
      simp only [Except.ok.injEq, Prod.mk.injEq] at hexpect
      rw [← hexpect.2]
      exact limit_of_bump hbump
    next => simp at hexpect

end Feed

end FilterLanguage
