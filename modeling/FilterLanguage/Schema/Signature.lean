import FilterLanguage.Schema.TypeToken

/-!
# Signatures

The type of one overload of an operator: the tokens of its operands around the
operator's name.  A unary overload has no right operand.
-/

namespace FilterLanguage

structure Signature where
  left : TypeToken
  operator : String
  right : Option TypeToken
deriving DecidableEq

/-- The longest runs without a space. -/
def spaceRuns : List Char → List (List Char)
  | [] => []
  | c :: rest =>
    if c = ' ' then spaceRuns rest
    else
      match rest, spaceRuns rest with
      | next :: _, run :: runs =>
        if next = ' ' then [c] :: run :: runs else (c :: run) :: runs
      | _, runs => [c] :: runs

namespace Signature

def isUnary (s : Signature) : Bool := s.right.isNone

def text (s : Signature) : String :=
  s.left.text ++ " " ++ s.operator ++
    match s.right with
    | some right => " " ++ right.text
    | none => ""

/-- A signature is written with two or three words. -/
def ofWords? : List String → Option Signature
  | [left, operator] => do
    let left ← TypeToken.read? left
    pure ⟨left, operator, none⟩
  | [left, operator, right] => do
    let left ← TypeToken.read? left
    let right ← TypeToken.read? right
    pure ⟨left, operator, some right⟩
  | _ => none

/-- Reads a signature, with any spaces around its words. -/
def read? (text : String) : Option Signature :=
  ofWords? ((spaceRuns text.toList).map String.ofList)

end Signature

end FilterLanguage
