import FilterLanguage.Text.Alphanumeric

/-!
# Type tokens

The type of an operand: a declared type or `any`, with `$` in front when the
operand is a reference and `[]` behind when it is an array.  Tokens on `any` are
wildcards.  `$any` matches every token, the other three match the tokens with
the same two marks.  A type that happens to be declared under the name `any` is
no wildcard.
-/

namespace FilterLanguage

inductive BaseType where
  | any
  | named (name : String)
deriving DecidableEq

def BaseType.text : BaseType → String
  | .any => "any"
  | .named name => name

structure TypeToken where
  base : BaseType
  reference : Bool
  array : Bool
deriving DecidableEq

def isTypeChar (c : Char) : Bool :=
  isAlphanumeric c || c == '_' || c == '-' || c == '.'

/-- How a token compares with others. -/
inductive TypePattern where
  | universal
  | wildcard (reference array : Bool)
  | exact (token : TypeToken)

namespace TypeToken

/-- The plain token of a type. -/
def named (name : String) : TypeToken := ⟨.named name, false, false⟩

def any : TypeToken := ⟨.any, false, false⟩

def asReference (t : TypeToken) : TypeToken := { t with reference := true }

def asArray (t : TypeToken) : TypeToken := { t with array := true }

/-- The token that matches every other. -/
def universal : TypeToken := any.asReference

def wildcards : List TypeToken :=
  [any, any.asArray, universal, universal.asArray]

def name? (t : TypeToken) : Option String :=
  match t.base with
  | .any => none
  | .named name => some name

def isWildcard (t : TypeToken) : Bool := t.base == .any

def pattern (t : TypeToken) : TypePattern :=
  match t.base, t.reference, t.array with
  | .any, true, false => .universal
  | .any, reference, array => .wildcard reference array
  | .named _, _, _ => .exact t

/-- Both tokens have these marks. -/
def bothMarked (reference array : Bool) (s t : TypeToken) : Bool :=
  s.reference == reference && t.reference == reference &&
    s.array == array && t.array == array

/-- The tokens match, wildcards on either side considered. -/
def admits (s t : TypeToken) : Bool :=
  match s.pattern, t.pattern with
  | .universal, _ => true
  | _, .universal => true
  | .wildcard reference array, _ => bothMarked reference array s t
  | _, .wildcard reference array => bothMarked reference array s t
  | .exact a, .exact b => a == b

def text (t : TypeToken) : String :=
  (if t.reference then "$" else "") ++ t.base.text ++
    (if t.array then "[]" else "")

/-- The characters before a final `[]`. -/
def stripBrackets? (cs : List Char) : Option (List Char) :=
  match cs.reverse with
  | ']' :: '[' :: rest => some rest.reverse
  | _ => none

def readBase? (cs : List Char) : Option BaseType :=
  if cs = [] ∨ ¬ cs.all isTypeChar then none
  else if cs = "any".toList then some .any
  else some (.named (String.ofList cs))

/-- Reads a token from all of a text. -/
def read? (text : String) : Option TypeToken :=
  let (reference, rest) :=
    match text.toList with
    | '$' :: rest => (true, rest)
    | rest => (false, rest)
  let (array, base) :=
    match stripBrackets? rest with
    | some base => (true, base)
    | none => (false, rest)
  (readBase? base).map fun base => ⟨base, reference, array⟩

end TypeToken

end FilterLanguage
