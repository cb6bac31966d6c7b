import FilterLanguage.Resolution.Resolve
import FilterLanguage.Token.Scanner

/-!
# Builders

A builder makes a flat group one statement at a time.  Each statement has to
have a text that reads back as itself; it is resolved and applied as soon as it
is added.  The first failure is kept, and what is added after it is ignored.
-/

namespace FilterLanguage

/-- The operand is read back from its own text. -/
def Operand.isExpressible (operand : Operand) : Bool :=
  match Token.single? operand.text, operand with
  | some (.literal scanned), .literal value => scanned.equals value
  | some (.reference scanned), .reference name => scanned == name
  | _, _ => false

def isExpressibleOperator (operator : String) : Bool :=
  match Token.single? operator with
  | some (.reference word) => word == operator
  | _ => false

def Operand.checkExpressible (operand : Operand) : Except Error Unit :=
  if operand.isExpressible then .ok ()
  else .error (.invalidOperand operand.text)

/-- Refuses a statement whose text reads as something else: the left operand is
looked at first, then the right one, then the operator. -/
def Statement.checkExpressible (s : Statement) : Except Error Unit :=
  match s.left.checkExpressible with
  | .error e => .error e
  | .ok () =>
    match s.right.map Operand.checkExpressible with
    | some (.error e) => .error e
    | _ =>
      if isExpressibleOperator s.operator then .ok ()
      else .error (.invalidOperator s.operator)

structure Builder (σ : Type) where
  registry : Registry σ
  group : Group ResolvedStatement
  accumulator : σ
  error : Option Error

structure Built (σ : Type) where
  group : Group ResolvedStatement
  accumulator : σ

namespace Builder

variable {σ : Type}

def ofRegistry (r : Registry σ) (accumulator : σ) : Builder σ :=
  ⟨r, .empty, accumulator, none⟩

def tryAdd (r : Registry σ) (s : Statement) (accumulator : σ) :
    Except Error ResolvedStatement × σ :=
  match s.checkExpressible with
  | .error e => (.error e, accumulator)
  | .ok () =>
    match r.resolveStatement s with
    | .error e => (.error e, accumulator)
    | .ok resolved =>
      match r.applyStatement resolved accumulator with
      | (.ok (), after) => (.ok resolved, after)
      | (.error e, after) => (.error e, after)

/-- The group with a statement at its end, joined by a connective if it is not
the first. -/
def join {α : Type} (g : Group α) (c : Connective) (s : α) : Group α :=
  if g.isEmpty then .statement s .empty
  else g.append (.connective c (.statement s .empty))

def push (b : Builder σ) (c : Connective) (s : Statement) : Builder σ :=
  match b.error with
  | some _ => b
  | none =>
    match tryAdd b.registry s b.accumulator with
    | (.ok resolved, after) =>
      { b with group := join b.group c resolved, accumulator := after }
    | (.error e, after) => { b with accumulator := after, error := some e }

def build (b : Builder σ) : Except Error (Built σ) :=
  match b.error with
  | some e => .error e
  | none => .ok ⟨b.group, b.accumulator⟩

end Builder

def Registry.create {σ : Type} (r : Registry σ) : Builder σ :=
  .ofRegistry r r.accumulator

end FilterLanguage
