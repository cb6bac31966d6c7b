import FilterLanguage.ParseError
import FilterLanguage.Statement

/-!
# Tokens

The words of a filter text: literals, names, the two connectives and the two
parentheses.
-/

namespace FilterLanguage

inductive Token where
  | literal (value : Literal)
  | reference (name : String)
  | connective (c : Connective)
  | groupBegin
  | groupEnd
deriving DecidableEq

namespace Token

def isOperand : Token → Bool
  | .literal _ | .reference _ => true
  | _ => false

def describe : Token → String
  | .literal value => "literal " ++ value.text
  | .reference name => "`" ++ name ++ "`"
  | .connective c => "`" ++ c.text ++ "`"
  | .groupBegin => "`(`"
  | .groupEnd => "`)`"

end Token

/-- The token that writes an operand. -/
def Operand.token : Operand → Token
  | .literal value => .literal value
  | .reference name => .reference name

structure Lexeme where
  token : Token
  span : Span
deriving DecidableEq

end FilterLanguage
