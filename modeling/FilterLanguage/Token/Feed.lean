import FilterLanguage.Token.Scanner

/-!
# One lexeme of lookahead

A feed hands out the lexemes of a text one after the other and lets its reader
look at the next one first.  A lexeme that was looked at is held until it is
taken.  At the end of input nothing is held, and looking again comes upon the
end again.
-/

namespace FilterLanguage

structure Feed where
  cursor : Cursor
  held : Option Lexeme
deriving DecidableEq

namespace Feed

def ofText (text : String) : Feed := ⟨Cursor.ofText text, none⟩

def limit (feed : Feed) : Nat := feed.cursor.limit

/-- What is still to be handed out, at most. -/
def size (feed : Feed) : Nat :=
  feed.cursor.rest.length + if feed.held.isSome then 1 else 0

/-- Scans one lexeme past the held one. -/
def pull (cursor : Cursor) : Except ParseError (Option Lexeme × Cursor) :=
  match cursor.next with
  | .done => .ok (none, cursor)
  | .lexeme found after => .ok (some found, after)
  | .error e _ => .error e

def drop (feed : Feed) : Feed := ⟨feed.cursor, none⟩

/-- The next lexeme, which stays. -/
def peek (feed : Feed) : Except ParseError (Option Lexeme × Feed) :=
  match feed.held with
  | some found => .ok (some found, feed)
  | none =>
    match pull feed.cursor with
    | .ok (found, cursor) => .ok (found, ⟨cursor, found⟩)
    | .error e => .error e

/-- The next lexeme, which is taken. -/
def bump (feed : Feed) : Except ParseError (Option Lexeme × Feed) :=
  match feed.held with
  | some found => .ok (some found, feed.drop)
  | none =>
    match pull feed.cursor with
    | .ok (found, cursor) => .ok (found, ⟨cursor, none⟩)
    | .error e => .error e

theorem pull_none {cursor after : Cursor}
    (h : pull cursor = .ok (none, after)) : after = cursor := by
  unfold pull at h
  split at h <;> simp_all

theorem pull_some_length {cursor after : Cursor} {found : Lexeme}
    (h : pull cursor = .ok (some found, after)) :
    after.rest.length < cursor.rest.length := by
  unfold pull at h
  split at h
  · simp at h
  · next hnext =>
    simp only [Except.ok.injEq, Prod.mk.injEq, Option.some.injEq] at h
    obtain ⟨_, rfl⟩ := h
    exact Cursor.next_length (by rw [hnext]; rfl)
  · simp at h

theorem peek_size {feed after : Feed} {found : Option Lexeme}
    (h : feed.peek = .ok (found, after)) : after.size ≤ feed.size := by
  unfold peek at h
  split at h
  · simp only [Except.ok.injEq, Prod.mk.injEq] at h
    obtain ⟨_, rfl⟩ := h
    exact Nat.le_refl _
  · next hheld =>
    split at h
    · next found' cursor hpull =>
      simp only [Except.ok.injEq, Prod.mk.injEq] at h
      obtain ⟨rfl, rfl⟩ := h
      cases found' with
      | none =>
        rw [pull_none hpull]
        simp [size]
      | some lexeme =>
        have := pull_some_length hpull
        simp only [size, hheld, Option.isSome_some, Option.isSome_none]
        simp
        omega
    · simp at h

theorem bump_some_size {feed after : Feed} {found : Lexeme}
    (h : feed.bump = .ok (some found, after)) : after.size < feed.size := by
  unfold bump at h
  split at h
  · next hheld =>
    simp only [Except.ok.injEq, Prod.mk.injEq] at h
    obtain ⟨_, rfl⟩ := h
    simp [size, drop, hheld]
  · next hheld =>
    split at h
    · next found' cursor hpull =>
      simp only [Except.ok.injEq, Prod.mk.injEq] at h
      obtain ⟨rfl, rfl⟩ := h
      have := pull_some_length hpull
      simp only [size, hheld]
      simp
      omega
    · simp at h

theorem peek_some_drop_size {feed after : Feed} {found : Lexeme}
    (h : feed.peek = .ok (some found, after)) :
    after.drop.size < feed.size := by
  unfold peek at h
  split at h
  · next hheld =>
    simp only [Except.ok.injEq, Prod.mk.injEq] at h
    obtain ⟨_, rfl⟩ := h
    simp [size, drop, hheld]
  · next hheld =>
    split at h
    · next found' cursor hpull =>
      simp only [Except.ok.injEq, Prod.mk.injEq] at h
      obtain ⟨rfl, rfl⟩ := h
      have := pull_some_length hpull
      simp only [size, drop, hheld]
      simp
      omega
    · simp at h

/-- A feed from which something was taken. -/
abbrev Later (feed : Feed) := { later : Feed // later.size < feed.size }

/-- A feed that holds no more than this one. -/
abbrev AtMost (feed : Feed) := { later : Feed // later.size ≤ feed.size }

/-- What lies ahead: the end of input, or a lexeme with the feed before and the
feed behind it. -/
inductive Sight (feed : Feed) where
  | ended (after : feed.AtMost)
  | lexeme (found : Lexeme) (before : feed.AtMost) (behind : feed.Later)

/-- Peeks, and keeps the sizes of the feeds that result. -/
def look (feed : Feed) : Except ParseError feed.Sight :=
  match hpeek : feed.peek with
  | .error e => .error e
  | .ok (none, after) => .ok (.ended ⟨after, peek_size hpeek⟩)
  | .ok (some found, after) =>
    .ok (.lexeme found ⟨after, peek_size hpeek⟩
      ⟨after.drop, peek_some_drop_size hpeek⟩)

/-- The error for what was found, or for the end of input. -/
def unexpected (feed : Feed) (kind : ParseErrorKind) :
    Option Lexeme → ParseError
  | some found => .found kind found.span found.token.describe
  | none => .found kind (.point feed.limit) "end of input"

/-- Takes a lexeme that `read?` accepts; anything else is an error. -/
def expect {α : Type} (feed : Feed) (kind : ParseErrorKind)
    (read? : Token → Option α) : Except ParseError (α × feed.Later) :=
  match hbump : feed.bump with
  | .error e => .error e
  | .ok (none, after) => .error (after.unexpected kind none)
  | .ok (some found, after) =>
    match read? found.token with
    | some value => .ok (value, ⟨after, bump_some_size hbump⟩)
    | none => .error (after.unexpected kind (some found))

end Feed

end FilterLanguage
