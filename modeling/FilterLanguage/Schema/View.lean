import FilterLanguage.Schema.Registry

/-!
# Views of the overloads

Narrowing keeps the overloads that a query accepts.  A view holds the places of
those that are left, in the order of registration, and can be narrowed again.
Narrowing strictly is an error when nothing is left; the error tells what there
was to choose from.
-/

namespace FilterLanguage

structure View (σ : Type) where
  registry : Registry σ
  indices : List Nat

namespace View

variable {σ : Type}

def whole (r : Registry σ) : View σ := ⟨r, List.range r.overloads.length⟩

def overloads (v : View σ) : List (Overload σ) :=
  v.indices.filterMap fun i => v.registry.overloads[i]?

def signatures (v : View σ) : List Signature :=
  v.overloads.map Overload.signature

def isEmpty (v : View σ) : Bool := v.indices.isEmpty

/-- The first overload that is left, with its place. -/
def first? (v : View σ) : Option (Nat × Overload σ) :=
  match v.indices with
  | i :: _ => (v.registry.overloads[i]?).map fun o => (i, o)
  | [] => none

def selects (r : Registry σ) (q : Query) (i : Nat) : Bool :=
  match r.overloads[i]? with
  | some o => q.accepts o.signature
  | none => false

def narrow (v : View σ) (q : Query) : View σ :=
  ⟨v.registry, v.indices.filter (selects v.registry q)⟩

def narrowStrict (v : View σ) (q : Query) : Except Error (View σ) :=
  let narrowed := v.narrow q
  if narrowed.isEmpty then .error (.noMatchingOverload q v.signatures)
  else .ok narrowed

end View

namespace Registry

variable {σ : Type}

def narrow (r : Registry σ) (q : Query) : View σ := (View.whole r).narrow q

def narrowStrict (r : Registry σ) (q : Query) : Except Error (View σ) :=
  (View.whole r).narrowStrict q

end Registry

end FilterLanguage
