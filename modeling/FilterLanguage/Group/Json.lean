import FilterLanguage.Group.Basic
import FilterLanguage.Json.Basic

/-!
# Groups in JSON

A group is an array of its elements.  A connective is a string, a statement an
object, and an operand an object that tells its kind first.
-/

namespace FilterLanguage

def Literal.toJson : Literal → Json
  | .number value => .number value
  | .string value => .string value
  | .boolean value => .boolean value

def Operand.toJson : Operand → Json
  | .literal value =>
    .object [("type", .string "LITERAL_VALUE"), ("value", value.toJson)]
  | .reference name =>
    .object [("type", .string "REFERENCE"), ("name", .string name)]

/-- A field that is left out when there is no value. -/
def Json.optionalField (name : String) : Option Json → List (String × Json)
  | some value => [(name, value)]
  | none => []

def Statement.toJson (s : Statement) : Json :=
  .object
    ([("left", s.left.toJson), ("operator", .string s.operator)] ++
      Json.optionalField "right" (s.right.map Operand.toJson))

def Group.jsonItems {α : Type} (write : α → Json) : Group α → List Json
  | .empty => []
  | .statement s rest => write s :: rest.jsonItems write
  | .connective c rest => .string c.text :: rest.jsonItems write
  | .nested inner rest =>
    .array (inner.jsonItems write) :: rest.jsonItems write

def Group.toJson {α : Type} (write : α → Json) (g : Group α) : Json :=
  .array (g.jsonItems write)

end FilterLanguage
