import FilterLanguage.Error
import FilterLanguage.Resolution.Basic

/-!
# Registries

A registry holds what a schema declares: the types, the references with their
types, and the overloads of operators, each in the order of declaration.  It
also keeps the vocabulary of type tokens that the declared references bring
along, and the accumulator that builders start from.

An overload may carry a transform, which accepts or rejects a statement and
changes an accumulator on the way.
-/

namespace FilterLanguage

/-- The list with `x` at its end, unless it is in it. -/
def insertNew {α : Type} [DecidableEq α] (xs : List α) (x : α) : List α :=
  if x ∈ xs then xs else xs ++ [x]

/-- The list without the later ones of equal members. -/
def distinct {α : Type} [DecidableEq α] (xs : List α) : List α :=
  xs.foldl insertNew []

structure Reference where
  name : String
  type : String
  array : Bool
deriving DecidableEq

def Reference.token (r : Reference) : TypeToken :=
  ⟨.named r.type, true, r.array⟩

/-- The tokens that a type brings into the vocabulary. -/
def vocabularyOf (type : String) : List TypeToken :=
  [.named type, (TypeToken.named type).asReference,
    (TypeToken.named type).asArray]

/-- Tells whether a statement is accepted, and the accumulator behind it. -/
abbrev Transform (σ : Type) := ResolvedStatement → σ → Bool × σ

structure Overload (σ : Type) where
  signature : Signature
  transform : Option (Transform σ)

/-- Runs the transform.  An overload without one accepts everything and changes
nothing. -/
def Overload.apply {σ : Type} (o : Overload σ) (s : ResolvedStatement)
    (accumulator : σ) : Bool × σ :=
  match o.transform with
  | some transform => transform s accumulator
  | none => (true, accumulator)

structure Registry (σ : Type) where
  types : List String
  references : List Reference
  tokens : List TypeToken
  overloads : List (Overload σ)
  accumulator : σ

namespace Registry

variable {σ : Type}

/-- The registry of some types, without references and overloads. -/
def ofTypes (types : List String) (accumulator : σ) : Registry σ :=
  ⟨distinct types, [], TypeToken.wildcards, [], accumulator⟩

def find? (r : Registry σ) (name : String) : Option Reference :=
  r.references.find? fun reference => reference.name == name

/-- Declares a reference.  Its name must be new and its type declared. -/
def add (r : Registry σ) (reference : Reference) : Except Error (Registry σ) :=
  if (r.find? reference.name).isSome then
    .error (.alreadyExists reference.name)
  else if reference.type ∉ r.types then
    .error (.notFound .type reference.type)
  else
    .ok { r with
      references := r.references ++ [reference]
      tokens := (vocabularyOf reference.type).foldl insertNew r.tokens }

def register (r : Registry σ) (o : Overload σ) : Registry σ :=
  { r with overloads := r.overloads ++ [o] }

def reference (r : Registry σ) (name : String) : Except Error Reference :=
  match r.find? name with
  | some reference => .ok reference
  | none => .error (.notFound .reference name)

/-- Another name for the look-up of a reference. -/
def get (r : Registry σ) (name : String) : Except Error Reference :=
  r.reference name

/-- The token of the vocabulary that a text writes. -/
def token (r : Registry σ) (pattern : String) : Except Error TypeToken :=
  match TypeToken.read? pattern with
  | some token =>
    if token ∈ r.tokens then .ok token else .error (.notFound .token pattern)
  | none => .error (.notFound .token pattern)

def signatures (r : Registry σ) : List Signature :=
  r.overloads.map Overload.signature

/-- The names of the operators, in the order in which each came first. -/
def operatorNames (r : Registry σ) : List String :=
  distinct (r.signatures.map Signature.operator)

end Registry

end FilterLanguage
