import FilterLanguage.Token.Basic

/-!
# Scanning

A cursor is a byte offset and the input from there on.  `Cursor.next` reads one
lexeme behind any spaces.  The space character alone separates; a parenthesis
stands for itself, a quote opens a string literal, and everything else is a run
that extends to the next space or parenthesis.  A run that starts with a digit
or a point has to be a number.

An error leaves a cursor to go on from: behind the run of a bad number, and
right behind the opening quote of a bad string literal.  Either way every step
makes progress, so `Cursor.scanAll` ends.
-/

namespace FilterLanguage

def isRunChar (c : Char) : Bool := c != ' ' && c != '(' && c != ')'

/-- The character starts a run that has to be a number. -/
def isNumberStart (c : Char) : Bool := c.isDigit || c == '.'

/-- Reads a run that starts with `first`.  Nothing is returned for a number
that is malformed or too large. -/
def Token.ofRun? (first : Char) (run : List Char) : Option Token :=
  if isNumberStart first then
    match Number.readUnsigned? run with
    | some value =>
      if value.isFinite then some (.literal (.number value)) else none
    | none => none
  else if run = "true".toList then some (.literal (.boolean true))
  else if run = "false".toList then some (.literal (.boolean false))
  else if run = "AND".toList then some (.connective .and)
  else if run = "OR".toList then some (.connective .or)
  else some (.reference (String.ofList run))

structure Cursor where
  offset : Nat
  rest : List Char
deriving DecidableEq

/-- What a cursor comes upon. -/
inductive Scan where
  | done
  | lexeme (found : Lexeme) (next : Cursor)
  | error (e : ParseError) (next : Cursor)

def Scan.next? : Scan → Option Cursor
  | .done => none
  | .lexeme _ next => some next
  | .error _ next => some next

namespace Cursor

def ofText (text : String) : Cursor := ⟨0, text.toList⟩

def limit (cursor : Cursor) : Nat := cursor.offset + byteLength cursor.rest

/-- The cursor moved behind `taken`, of which `rest` is left. -/
def advance (cursor : Cursor) (taken rest : List Char) : Cursor :=
  ⟨cursor.offset + byteLength taken, rest⟩

def skipSpaces (cursor : Cursor) : Cursor :=
  cursor.advance (cursor.rest.takeWhile (· == ' '))
    (cursor.rest.dropWhile (· == ' '))

def mark (offset : Nat) (token : Token) (rest : List Char) : Scan :=
  .lexeme ⟨token, ⟨offset, offset + 1⟩⟩ ⟨offset + 1, rest⟩

/-- Reads a string literal whose opening quote is at `offset`. -/
def quoted (offset : Nat) (quote : Char) (rest : List Char) : Scan :=
  let body := offset + 1
  match Quoted.read quote rest with
  | .closed value size after =>
    .lexeme
      ⟨.literal (.string (String.ofList value)), ⟨offset, body + size⟩⟩
      ⟨body + size, after⟩
  | .badEscape place found =>
    .error
      (.found .invalidEscape
        ⟨body + place, body + place + 1 + found.utf8Size⟩
        ("`" ++ String.singleton found ++ "`"))
      ⟨body, rest⟩
  | .unterminated =>
    .error (.ofKind .unterminatedString ⟨offset, body + byteLength rest⟩)
      ⟨body, rest⟩

def run (offset : Nat) (first : Char) (rest : List Char) : Scan :=
  let word := first :: rest.takeWhile isRunChar
  let stop := offset + byteLength word
  let next : Cursor := ⟨stop, rest.dropWhile isRunChar⟩
  match Token.ofRun? first word with
  | some token => .lexeme ⟨token, ⟨offset, stop⟩⟩ next
  | none =>
    .error
      (.found .invalidNumber ⟨offset, stop⟩ ("`" ++ String.ofList word ++ "`"))
      next

def next (cursor : Cursor) : Scan :=
  match cursor.skipSpaces with
  | ⟨_, []⟩ => .done
  | ⟨offset, first :: rest⟩ =>
    if first = '(' then mark offset .groupBegin rest
    else if first = ')' then mark offset .groupEnd rest
    else if first = '"' ∨ first = '\'' then quoted offset first rest
    else run offset first rest

theorem skipSpaces_length (cursor : Cursor) :
    cursor.skipSpaces.rest.length ≤ cursor.rest.length :=
  (List.dropWhile_sublist _).length_le

theorem quoted_length {offset : Nat} {quote : Char} {rest : List Char}
    {after : Cursor} (h : (quoted offset quote rest).next? = some after) :
    after.rest.length ≤ rest.length := by
  unfold quoted at h
  split at h <;> simp only [Scan.next?, Option.some.injEq] at h <;> subst h
  · next hread => exact Nat.le_of_lt (Quoted.read_rest_length hread)
  · exact Nat.le_refl _
  · exact Nat.le_refl _

theorem run_length {offset : Nat} {first : Char} {rest : List Char}
    {after : Cursor} (h : (run offset first rest).next? = some after) :
    after.rest.length ≤ rest.length := by
  have hdrop : (rest.dropWhile isRunChar).length ≤ rest.length :=
    (List.dropWhile_sublist _).length_le
  simp only [run] at h
  split at h <;> simp only [Scan.next?, Option.some.injEq] at h <;> subst h
  · exact hdrop
  · exact hdrop

/-- Every step that finds something, an error too, uses up input. -/
theorem next_length {cursor after : Cursor}
    (h : cursor.next.next? = some after) :
    after.rest.length < cursor.rest.length := by
  have hskip := cursor.skipSpaces_length
  unfold next at h
  split at h
  · simp [Scan.next?] at h
  · next offset first rest hrest =>
    rw [hrest] at hskip
    simp only [List.length_cons] at hskip
    have hle : after.rest.length ≤ rest.length := by
      split at h
      · simp only [mark, Scan.next?, Option.some.injEq] at h
        subst h
        exact Nat.le_refl _
      split at h
      · simp only [mark, Scan.next?, Option.some.injEq] at h
        subst h
        exact Nat.le_refl _
      split at h
      · exact quoted_length h
      · exact run_length h
    omega

/-- Everything that `next` finds up to the end of input, going on after
errors. -/
def scanAll (cursor : Cursor) : List (Except ParseError Lexeme) :=
  match _hnext : cursor.next with
  | .done => []
  | .lexeme found after => .ok found :: scanAll after
  | .error e after => .error e :: scanAll after
termination_by cursor.rest.length
decreasing_by
  · exact next_length (by rw [_hnext]; rfl)
  · exact next_length (by rw [_hnext]; rfl)

end Cursor

/-- The results up to and including the first error. -/
def upToError : List (Except ParseError Lexeme) → List (Except ParseError Lexeme)
  | [] => []
  | .ok found :: rest => .ok found :: upToError rest
  | .error e :: _ => [.error e]

/-- The one token that a text consists of, spaces apart. -/
def Token.single? (text : String) : Option Token :=
  match (Cursor.ofText text).next with
  | .lexeme found after =>
    match after.next with
    | .done => some found.token
    | _ => none
  | _ => none

end FilterLanguage
