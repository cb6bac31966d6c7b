import FilterLanguage.Group.Walk
import FilterLanguage.Schema.View

/-!
# Resolution and application

Resolution gives every operand its type and every statement the first
registered overload that fits.  A reference has its declared type, a literal
the type of its kind.

Application runs the transforms of the chosen overloads over an accumulator, in
the order of the text, and stops at the first statement that is rejected.  A
statement that was resolved by other means may name an overload that is not
there, or another one than it was resolved to; no transform is run for it.
-/

namespace FilterLanguage
namespace Registry

variable {σ : Type}

def typeOf (r : Registry σ) : Operand → Except Error TypeToken
  | .literal value => .ok (.named value.typeName)
  | .reference name =>
    match r.reference name with
    | .ok reference => .ok reference.token
    | .error e => .error e

def typed (r : Registry σ) (operand : Operand) : Except Error TypedOperand :=
  match r.typeOf operand with
  | .ok type => .ok ⟨operand, type⟩
  | .error e => .error e

def typedRight (r : Registry σ) :
    Option Operand → Except Error (Option TypedOperand)
  | none => .ok none
  | some operand =>
    match r.typed operand with
    | .ok right => .ok (some right)
    | .error e => .error e

def queryFor (left : TypedOperand) (operator : String)
    (right : Option TypedOperand) : Query :=
  .exactly left.type operator (right.map TypedOperand.type)

def resolveStatement (r : Registry σ) (s : Statement) :
    Except Error ResolvedStatement :=
  match r.typed s.left with
  | .error e => .error e
  | .ok left =>
    match r.typedRight s.right with
    | .error e => .error e
    | .ok right =>
      let query := queryFor left s.operator right
      match r.narrowStrict query with
      | .error e => .error e
      | .ok view =>
        match view.first? with
        | some (i, o) => .ok ⟨left, s.operator, right, i, o.signature⟩
        | none => .error (.noMatchingOverload query [])

/-- Resolves every statement of a group and keeps its shape. -/
def resolve (r : Registry σ) (g : Group Statement) :
    Except Error (Group ResolvedStatement) :=
  g.mapM r.resolveStatement

/-- The overload that a statement was resolved to, if it is registered at its
place. -/
def chosen? (r : Registry σ) (s : ResolvedStatement) : Option (Overload σ) :=
  (r.overloads[s.overload]?).filter fun o => o.signature == s.signature

def applyStatement (r : Registry σ) (s : ResolvedStatement)
    (accumulator : σ) : Except Error Unit × σ :=
  match r.chosen? s with
  | some o =>
    let (accepted, after) := o.apply s accumulator
    if accepted then (.ok (), after)
    else (.error (.transformRejected s.signature), after)
  | none =>
    let query := Query.exactly s.signature.left s.signature.operator
      s.signature.right
    (.error (.noMatchingOverload query r.signatures), accumulator)

def applyAll (r : Registry σ) :
    List ResolvedStatement → σ → Except Error Unit × σ
  | [], accumulator => (.ok (), accumulator)
  | s :: rest, accumulator =>
    match r.applyStatement s accumulator with
    | (.ok (), after) => r.applyAll rest after
    | (.error e, after) => (.error e, after)

/-- Runs the transforms of a group over an accumulator.  What was done before
an error stays. -/
def apply (r : Registry σ) (g : Group ResolvedStatement) (accumulator : σ) :
    Except Error Unit × σ :=
  r.applyAll g.statements accumulator

end Registry
end FilterLanguage
