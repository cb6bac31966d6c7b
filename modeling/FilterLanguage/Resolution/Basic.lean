import FilterLanguage.Group.Json
import FilterLanguage.Schema.Signature

/-!
# Resolved statements

A statement in which every operand has its type, with the overload that its
operator stands for.
-/

namespace FilterLanguage

structure TypedOperand where
  operand : Operand
  type : TypeToken
deriving DecidableEq

def TypedOperand.text (t : TypedOperand) : String :=
  t.operand.text ++ ": " ++ t.type.text

structure ResolvedStatement where
  left : TypedOperand
  operator : String
  right : Option TypedOperand
  /-- Place of the overload in the order of registration. -/
  overload : Nat
  signature : Signature
deriving DecidableEq

namespace ResolvedStatement

/-- The statement as it was written. -/
def statement (s : ResolvedStatement) : Statement :=
  ⟨s.left.operand, s.operator, s.right.map TypedOperand.operand⟩

def text (s : ResolvedStatement) : String := s.statement.text

end ResolvedStatement

def TypedOperand.toJson (t : TypedOperand) : Json :=
  .object [("operand", t.operand.toJson), ("type", .string t.type.text)]

def ResolvedStatement.toJson (s : ResolvedStatement) : Json :=
  .object
    ([("left", s.left.toJson), ("operator", .string s.operator)] ++
      Json.optionalField "right" (s.right.map TypedOperand.toJson) ++
      [("overload", .natural s.overload),
        ("signature", .string s.signature.text)])

end FilterLanguage
