import FilterLanguage.Text.Span

/-!
# Parse errors

What is wrong with a filter text, and where.  The first four kinds come from
single tokens, the others from the way tokens follow each other.
-/

namespace FilterLanguage

inductive ParseErrorKind where
  | invalidNumber
  | invalidEscape
  | unterminatedString
  | unexpectedCharacter
  | expectedOperand
  | expectedOperator
  | expectedConnective
  | unclosedGroup
  | unmatchedGroupEnd
deriving DecidableEq

namespace ParseErrorKind

/-- The message of an error about which no more is known. -/
def message : ParseErrorKind → String
  | .invalidNumber => "expected valid number"
  | .invalidEscape => "expected backslash or quote after escape"
  | .unterminatedString => "unterminated string literal"
  | .unexpectedCharacter => "unexpected character"
  | .expectedOperand => "expected literal value or reference"
  | .expectedOperator => "expected operator"
  | .expectedConnective => "expected logical AND or OR"
  | .unclosedGroup => "unclosed group"
  | .unmatchedGroupEnd => "unmatched `)`"

/-- The error lies in one token. -/
def isLexical : ParseErrorKind → Bool
  | .invalidNumber | .invalidEscape | .unterminatedString
  | .unexpectedCharacter => true
  | _ => false

end ParseErrorKind

structure ParseError where
  kind : ParseErrorKind
  span : Span
  message : String
deriving DecidableEq

namespace ParseError

def ofKind (kind : ParseErrorKind) (span : Span) : ParseError :=
  ⟨kind, span, kind.message⟩

/-- The error with what was found added to the message of its kind. -/
def found (kind : ParseErrorKind) (span : Span) (what : String) : ParseError :=
  ⟨kind, span, kind.message ++ ", found " ++ what⟩

/-- One line: the message and the byte where the span starts. -/
def text (e : ParseError) : String :=
  e.message ++ " at position " ++ e.span.start.repr

end ParseError

end FilterLanguage
