import FilterLanguage.Number.Text
import FilterLanguage.Text.Quoted

/-!
# Statements

A statement compares a left operand, by an operator, with a right operand that
a unary statement does not have.  Operands are literals or names of
references.
-/

namespace FilterLanguage

inductive Literal where
  | number (value : Number)
  | string (value : String)
  | boolean (value : Bool)
deriving DecidableEq

namespace Literal

def typeName : Literal → String
  | .number _ => "number"
  | .string _ => "string"
  | .boolean _ => "boolean"

/-- The literal as it is written; strings stand in double quotes. -/
def text : Literal → String
  | .number value => value.text
  | .string value =>
    String.ofList ('"' :: (Quoted.escape '"' value.toList ++ ['"']))
  | .boolean true => "true"
  | .boolean false => "false"

/-- Equality of values, where numbers are compared numerically. -/
def equals : Literal → Literal → Bool
  | .number x, .number y => x.equals y
  | .string x, .string y => x == y
  | .boolean x, .boolean y => x == y
  | _, _ => false

end Literal

inductive Operand where
  | literal (value : Literal)
  | reference (name : String)
deriving DecidableEq

namespace Operand

def text : Operand → String
  | .literal value => value.text
  | .reference name => name

def reference? : Operand → Option String
  | .reference name => some name
  | .literal _ => none

def equals : Operand → Operand → Bool
  | .literal x, .literal y => x.equals y
  | .reference x, .reference y => x == y
  | _, _ => false

end Operand

structure Statement where
  left : Operand
  operator : String
  right : Option Operand
deriving DecidableEq

namespace Statement

/-- The parts with one space between them. -/
def text (s : Statement) : String :=
  s.left.text ++ " " ++ s.operator ++
    match s.right with
    | some right => " " ++ right.text
    | none => ""

def equals (s t : Statement) : Bool :=
  s.left.equals t.left && s.operator == t.operator &&
    match s.right, t.right with
    | some x, some y => x.equals y
    | none, none => true
    | _, _ => false

end Statement

inductive Connective where
  | and
  | or
deriving DecidableEq

def Connective.text : Connective → String
  | .and => "AND"
  | .or => "OR"

end FilterLanguage
