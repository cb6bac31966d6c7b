import FilterLanguage.Schema.Signature

/-!
# Queries over signatures

A query asks for overloads by the type of the left operand, by name, and by the
right operand.  What a query leaves open accepts everything.
-/

namespace FilterLanguage

/-- What is asked of the right operand. -/
inductive RightQuery where
  | unconstrained
  /-- There is none. -/
  | unary
  | is (token : TypeToken)
deriving DecidableEq

structure Query where
  left : Option TypeToken
  operator : Option String
  right : RightQuery
deriving DecidableEq

namespace RightQuery

/-- A token asked for is not found in a unary signature, unless it is the
universal one. -/
def accepts : RightQuery → Option TypeToken → Bool
  | .unconstrained, _ => true
  | .unary, right => right.isNone
  | .is token, none => token == TypeToken.universal
  | .is token, some right => token.admits right

/-- The query for exactly this right operand. -/
def ofOperand : Option TypeToken → RightQuery
  | some token => .is token
  | none => .unary

end RightQuery

namespace Query

def all : Query := ⟨none, none, .unconstrained⟩

def exactly (left : TypeToken) (operator : String) (right : Option TypeToken) :
    Query :=
  ⟨some left, some operator, .ofOperand right⟩

def accepts (q : Query) (s : Signature) : Bool :=
  (match q.left with
    | some left => left.admits s.left
    | none => true) &&
  (match q.operator with
    | some operator => operator == s.operator
    | none => true) &&
  q.right.accepts s.right

def parts (q : Query) : List String :=
  (match q.left with
    | some left => ["left: " ++ left.text]
    | none => []) ++
  (match q.operator with
    | some operator => ["operator: " ++ operator]
    | none => []) ++
  (match q.right with
    | .unconstrained => []
    | .unary => ["right: null"]
    | .is token => ["right: " ++ token.text])

def text (q : Query) : String :=
  "\x7b" ++ ", ".intercalate q.parts ++ "\x7d"

end Query

end FilterLanguage
