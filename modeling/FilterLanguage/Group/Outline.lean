import FilterLanguage.Group.Basic
import FilterLanguage.Text.Blank

/-!
# Outlines

A group as indented text: one node a line, two spaces for each level, and no
white space at the end.
-/

namespace FilterLanguage

def outlineLine (depth : Nat) (node : String) : String :=
  String.ofList (List.replicate (2 * depth) ' ') ++ node ++ "\n"

def Operand.outline (depth : Nat) : Operand → String
  | .literal value => outlineLine depth ("Literal " ++ value.text)
  | .reference name => outlineLine depth ("Reference " ++ name)

def Statement.outline (depth : Nat) (s : Statement) : String :=
  outlineLine depth "Statement" ++ s.left.outline (depth + 1) ++
    outlineLine (depth + 1) ("Operator " ++ s.operator) ++
    match s.right with
    | some right => right.outline (depth + 1)
    | none => ""

namespace Group

def elementOutline (depth : Nat) : Group Statement → String
  | .empty => ""
  | .statement s rest => s.outline depth ++ rest.elementOutline depth
  | .connective c rest => outlineLine depth c.text ++ rest.elementOutline depth
  | .nested inner rest =>
    outlineLine depth "Group" ++ inner.elementOutline (depth + 1) ++
      rest.elementOutline depth

def outline (g : Group Statement) : String :=
  let lines := outlineLine 0 "Group" ++ g.elementOutline 1
  String.ofList (trimEnd lines.toList)

end Group

end FilterLanguage
