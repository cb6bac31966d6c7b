import FilterLanguage.ParseError
import FilterLanguage.Schema.Query

/-!
# Errors

Everything that can fail in reading, declaring, resolving and applying, by its
cause.
-/

namespace FilterLanguage

/-- What a failed look-up was for. -/
inductive EntityKind where
  | reference
  | type
  | token
deriving DecidableEq

def EntityKind.text : EntityKind → String
  | .reference => "reference"
  | .type => "type"
  | .token => "token"

inductive Error where
  | notFound (kind : EntityKind) (name : String)
  | alreadyExists (name : String)
  | parse (e : ParseError)
  | noMatchingOverload (query : Query) (candidates : List Signature)
  | invalidTypeToken (text : String)
  | invalidSignature (text : String)
  /-- The operand has no text that reads back as itself. -/
  | invalidOperand (text : String)
  /-- The operator has no text that reads back as itself. -/
  | invalidOperator (text : String)
  | recursionLimitExceeded
  | transformRejected (signature : Signature)
deriving DecidableEq

def describeCandidates : List Signature → String
  | [] => "no overloads registered"
  | candidates =>
    "expected one of: " ++ ", ".intercalate (candidates.map Signature.text)

def Error.message : Error → String
  | .notFound kind name => kind.text ++ " \"" ++ name ++ "\" not found"
  | .alreadyExists name => "reference \"" ++ name ++ "\" already exists"
  | .parse e => e.text
  | .noMatchingOverload query candidates =>
    "no overload matches " ++ query.text ++ ": " ++
      describeCandidates candidates
  | .invalidTypeToken text => "invalid type token \"" ++ text ++ "\""
  | .invalidSignature text =>
    "invalid operator signature \"" ++ text ++ "\""
  | .invalidOperand text =>
    "operand `" ++ text ++ "` cannot be written as a filter word or literal"
  | .invalidOperator text => "operator `" ++ text ++ "` is not a bare word"
  | .recursionLimitExceeded => "recursion limit exceeded"
  | .transformRejected signature =>
    "transform for `" ++ signature.text ++ "` rejected the statement"

/-- Reads a type token, or says which text is none. -/
def TypeToken.parse (text : String) : Except Error TypeToken :=
  match TypeToken.read? text with
  | some token => .ok token
  | none => .error (.invalidTypeToken text)

/-- Reads a signature, or says which text is none. -/
def Signature.parse (text : String) : Except Error Signature :=
  match Signature.read? text with
  | some signature => .ok signature
  | none => .error (.invalidSignature text)

end FilterLanguage
