import FilterLanguage.Token.Feed

/-!
# What lies ahead

The lexemes that a cursor or a feed has yet to hand out form a sequence that
stops at the end of input or at the first error.  Looking at a lexeme leaves the
sequence alone and taking one removes its head.  Everything that is said here
about a feed is said of this sequence, so that the held lexeme and the cursor
need not be told apart again.
-/

namespace FilterLanguage

inductive Ahead where
  | ended
  | fault (e : ParseError)
  | lexeme (found : Lexeme) (rest : Ahead)

namespace Ahead

/-- The next lexemes are these tokens, and `rest` lies behind them. -/
def Yields : Ahead → List Token → Ahead → Prop
  | ahead, [], rest => ahead = rest
  | .lexeme found behind, token :: tokens, rest =>
    found.token = token ∧ behind.Yields tokens rest
  | _, _ :: _, _ => False

@[simp] theorem yields_nil_iff {ahead rest : Ahead} :
    ahead.Yields [] rest ↔ ahead = rest := by
  cases ahead <;> simp [Yields]

@[simp] theorem lexeme_yields_cons_iff {found : Lexeme} {behind rest : Ahead}
    {token : Token} {tokens : List Token} :
    (lexeme found behind).Yields (token :: tokens) rest ↔
      found.token = token ∧ behind.Yields tokens rest := Iff.rfl

theorem yields_cons_iff {ahead rest : Ahead} {token : Token}
    {tokens : List Token} :
    ahead.Yields (token :: tokens) rest ↔
      ∃ found behind, ahead = .lexeme found behind ∧ found.token = token ∧
        behind.Yields tokens rest := by
  constructor
  · intro hyields
    cases ahead with
    | ended => exact hyields.elim
    | fault e => exact hyields.elim
    | lexeme found behind => exact ⟨found, behind, rfl, hyields⟩
  · rintro ⟨found, behind, rfl, hyields⟩
    exact hyields

theorem yields_append_iff {ahead rest : Ahead} {before after : List Token} :
    ahead.Yields (before ++ after) rest ↔
      ∃ between, ahead.Yields before between ∧ between.Yields after rest := by
  induction before generalizing ahead with
  | nil => simp
  | cons token tokens ih =>
    simp only [List.cons_append, yields_cons_iff, ih]
    constructor
    · rintro ⟨found, behind, hahead, htoken, between, hbefore, hafter⟩
      exact ⟨between, ⟨found, behind, hahead, htoken, hbefore⟩, hafter⟩
    · rintro ⟨between, ⟨found, behind, hahead, htoken, hbefore⟩, hafter⟩
      exact ⟨found, behind, hahead, htoken, between, hbefore, hafter⟩

end Ahead

namespace Cursor

def ahead (cursor : Cursor) : Ahead :=
  match _hnext : cursor.next with
  | .done => .ended
  | .lexeme found after => .lexeme found after.ahead
  | .error e _ => .fault e
termination_by cursor.rest.length
decreasing_by exact next_length (by rw [_hnext]; rfl)

theorem ahead_of_done {cursor : Cursor} (hnext : cursor.next = .done) :
    cursor.ahead = .ended := by
  rw [ahead]
  split <;> simp_all

theorem ahead_of_lexeme {cursor after : Cursor} {found : Lexeme}
    (hnext : cursor.next = .lexeme found after) :
    cursor.ahead = .lexeme found after.ahead := by
  rw [ahead]
  split <;> simp_all

theorem ahead_of_error {cursor after : Cursor} {e : ParseError}
    (hnext : cursor.next = .error e after) : cursor.ahead = .fault e := by
  rw [ahead]
  split <;> simp_all

theorem next_of_ahead_lexeme {cursor : Cursor} {found : Lexeme} {behind : Ahead}
    (hahead : cursor.ahead = .lexeme found behind) :
    ∃ after, cursor.next = .lexeme found after ∧ after.ahead = behind := by
  cases hnext : cursor.next with
  | done => simp [ahead_of_done hnext] at hahead
  | lexeme found' after =>
    rw [ahead_of_lexeme hnext, Ahead.lexeme.injEq] at hahead
    obtain ⟨rfl, hbehind⟩ := hahead
    exact ⟨after, rfl, hbehind⟩
  | error e after => simp [ahead_of_error hnext] at hahead

/-- Scanning to the end of input meets no error and finds these tokens. -/
def Scans (cursor : Cursor) (tokens : List Token) : Prop :=
  cursor.scanAll.map (Except.map Lexeme.token) = tokens.map Except.ok

theorem scans_iff_yields {cursor : Cursor} {tokens : List Token} :
    cursor.Scans tokens ↔ cursor.ahead.Yields tokens .ended := by
  unfold Scans
  fun_induction scanAll cursor generalizing tokens with
  | case1 cursor hnext =>
    rw [ahead_of_done hnext]
    cases tokens <;> simp [Ahead.Yields]
  | case2 cursor found after hnext ih =>
    rw [ahead_of_lexeme hnext]
    cases tokens with
    | nil => simp
    | cons token tokens =>
      rw [List.map_cons, List.map_cons, List.cons.injEq, ih]
      simp [Except.map]
  | case3 cursor e after hnext ih =>
    rw [ahead_of_error hnext]
    cases tokens with
    | nil => simp
    | cons token tokens => simp [Except.map, Ahead.Yields]

end Cursor

namespace Feed

def ahead (feed : Feed) : Ahead :=
  match feed.held with
  | some found => .lexeme found feed.cursor.ahead
  | none => feed.cursor.ahead

/-- What a bump tells about the lexemes ahead. -/
def BumpTells (feed : Feed) : Except ParseError (Option Lexeme × Feed) → Prop
  | .error e => feed.ahead = .fault e
  | .ok (none, after) => feed.ahead = .ended ∧ after.ahead = .ended
  | .ok (some found, after) => feed.ahead = .lexeme found after.ahead

theorem bump_tells (feed : Feed) : feed.BumpTells feed.bump := by
  rcases feed with ⟨cursor, held⟩
  cases held with
  | some found => rfl
  | none =>
    cases hnext : cursor.next with
    | done =>
      have hended := Cursor.ahead_of_done hnext
      simp [bump, pull, hnext, BumpTells, ahead, hended]
    | lexeme found after =>
      have hlexeme := Cursor.ahead_of_lexeme hnext
      simp [bump, pull, hnext, BumpTells, ahead, hlexeme]
    | error e after =>
      have hfault := Cursor.ahead_of_error hnext
      simp [bump, pull, hnext, BumpTells, ahead, hfault]

/-- What a look tells about the lexemes ahead. -/
def LookTells (feed : Feed) : Except ParseError feed.Sight → Prop
  | .error e => feed.ahead = .fault e
  | .ok (.ended after) => feed.ahead = .ended ∧ after.val.ahead = .ended
  | .ok (.lexeme found before behind) =>
    before.val.ahead = feed.ahead ∧
      feed.ahead = .lexeme found behind.val.ahead

theorem peek_some_ahead {feed after : Feed} {found : Lexeme}
    (hpeek : feed.peek = .ok (some found, after)) :
    after.ahead = feed.ahead ∧ feed.ahead = .lexeme found after.drop.ahead := by
  rcases feed with ⟨cursor, held⟩
  cases held with
  | some found' =>
    simp only [peek, Except.ok.injEq, Prod.mk.injEq, Option.some.injEq] at hpeek
    obtain ⟨rfl, rfl⟩ := hpeek
    exact ⟨rfl, rfl⟩
  | none =>
    cases hnext : cursor.next with
    | done => simp [peek, pull, hnext] at hpeek
    | lexeme found' next =>
      simp only [peek, pull, hnext, Except.ok.injEq, Prod.mk.injEq,
        Option.some.injEq] at hpeek
      obtain ⟨rfl, rfl⟩ := hpeek
      have hlexeme := Cursor.ahead_of_lexeme hnext
      exact ⟨hlexeme.symm, hlexeme⟩
    | error e next => simp [peek, pull, hnext] at hpeek

theorem peek_none_ahead {feed after : Feed}
    (hpeek : feed.peek = .ok (none, after)) :
    feed.ahead = .ended ∧ after.ahead = .ended := by
  rcases feed with ⟨cursor, held⟩
  cases held with
  | some found => simp [peek] at hpeek
  | none =>
    cases hnext : cursor.next with
    | done =>
      simp only [peek, pull, hnext, Except.ok.injEq, Prod.mk.injEq] at hpeek
      obtain ⟨_, rfl⟩ := hpeek
      have hended := Cursor.ahead_of_done hnext
      exact ⟨hended, hended⟩
    | lexeme found next => simp [peek, pull, hnext] at hpeek
    | error e next => simp [peek, pull, hnext] at hpeek

theorem peek_error_ahead {feed : Feed} {e : ParseError}
    (hpeek : feed.peek = .error e) : feed.ahead = .fault e := by
  rcases feed with ⟨cursor, held⟩
  cases held with
  | some found => simp [peek] at hpeek
  | none =>
    cases hnext : cursor.next with
    | done => simp [peek, pull, hnext] at hpeek
    | lexeme found next => simp [peek, pull, hnext] at hpeek
    | error e' next =>
      simp only [peek, pull, hnext, Except.error.injEq] at hpeek
      rw [← hpeek]
      exact Cursor.ahead_of_error hnext

theorem look_tells (feed : Feed) : feed.LookTells feed.look := by
  unfold look
  split
  next e hpeek => exact peek_error_ahead hpeek
  next after hpeek => exact peek_none_ahead hpeek
  next found after hpeek => exact peek_some_ahead hpeek

end Feed

end FilterLanguage
