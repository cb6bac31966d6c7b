import FilterLanguage.Token.Basic

/-!
# Groups

A group is a sequence of statements, connectives and nested groups, in any
order.  Its constructors are one per kind of first element, so that a group is
read from left to right like a list.  The statement type is a parameter: the
same shape carries parsed and resolved statements.
-/

namespace FilterLanguage

inductive Group (α : Type) where
  | empty
  | statement (s : α) (rest : Group α)
  | connective (c : Connective) (rest : Group α)
  | nested (inner rest : Group α)
deriving DecidableEq

namespace Group

variable {α β : Type}

instance : Inhabited (Group α) := ⟨.empty⟩

def isEmpty : Group α → Bool
  | .empty => true
  | _ => false

def length : Group α → Nat
  | .empty => 0
  | .statement _ rest | .connective _ rest | .nested _ rest => rest.length + 1

def append : Group α → Group α → Group α
  | .empty, g => g
  | .statement s rest, g => .statement s (rest.append g)
  | .connective c rest, g => .connective c (rest.append g)
  | .nested inner rest, g => .nested inner (rest.append g)

/-- Greatest depth among the groups nested inside. -/
def innerDepth : Group α → Nat
  | .empty => 0
  | .statement _ rest | .connective _ rest => rest.innerDepth
  | .nested inner rest =>
    max (if inner.isEmpty then 0 else inner.innerDepth + 1) rest.innerDepth

/-- Levels of nesting: none for an empty group, one for a flat one. -/
def depth (g : Group α) : Nat := if g.isEmpty then 0 else g.innerDepth + 1

/-- The statements in the order of the text, at every depth. -/
def flat : Group α → List α
  | .empty => []
  | .statement s rest => s :: rest.flat
  | .connective _ rest => rest.flat
  | .nested inner rest => inner.flat ++ rest.flat

/-- Changes every statement in the order of the text and keeps the shape. -/
def mapM {m : Type → Type} [Monad m] (f : α → m β) : Group α → m (Group β)
  | .empty => pure .empty
  | .statement s rest => do
    let changed ← f s
    let rest ← rest.mapM f
    pure (.statement changed rest)
  | .connective c rest => do
    let rest ← rest.mapM f
    pure (.connective c rest)
  | .nested inner rest => do
    let inner ← inner.mapM f
    let rest ← rest.mapM f
    pure (.nested inner rest)

/-- The texts of the elements; a nested group stands in parentheses. -/
def pieces (write : α → String) : Group α → List String
  | .empty => []
  | .statement s rest => write s :: rest.pieces write
  | .connective c rest => c.text :: rest.pieces write
  | .nested inner rest =>
    ("(" ++ " ".intercalate (inner.pieces write) ++ ")") :: rest.pieces write

/-- The elements with one space between them. -/
def text (write : α → String) (g : Group α) : String :=
  " ".intercalate (g.pieces write)

/-- Same shape, and statements that `same` accepts pairwise. -/
def equalsBy (same : α → α → Bool) : Group α → Group α → Bool
  | .empty, .empty => true
  | .statement s rest, .statement t rest' => same s t && rest.equalsBy same rest'
  | .connective c rest, .connective d rest' => c == d && rest.equalsBy same rest'
  | .nested inner rest, .nested inner' rest' =>
    inner.equalsBy same inner' && rest.equalsBy same rest'
  | _, _ => false

end Group

def Statement.tokens (s : Statement) : List Token :=
  s.left.token :: .reference s.operator ::
    match s.right with
    | some right => [right.token]
    | none => []

/-- The tokens of a group, a nested one with its parentheses. -/
def Group.tokens : Group Statement → List Token
  | .empty => []
  | .statement s rest => s.tokens ++ rest.tokens
  | .connective c rest => .connective c :: rest.tokens
  | .nested inner rest =>
    .groupBegin :: (inner.tokens ++ .groupEnd :: rest.tokens)

end FilterLanguage
