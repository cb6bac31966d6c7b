import FilterLanguage.Schema.Registry

/-!
# Schema configurations

What a schema file declares, and the registry that it makes: the references are
added in order and the first that cannot be is an error, then the operators are
registered in order.
-/

namespace FilterLanguage

structure Config where
  types : List String
  references : List Reference
  operators : List Signature
deriving DecidableEq

namespace Registry

variable {σ : Type}

/-- Adds references up to the first that cannot be added. -/
def addAll (r : Registry σ) : List Reference → Except Error (Registry σ)
  | [] => .ok r
  | reference :: rest =>
    match r.add reference with
    | .ok extended => extended.addAll rest
    | .error e => .error e

/-- Registers overloads without transforms. -/
def registerAll (r : Registry σ) (signatures : List Signature) : Registry σ :=
  signatures.foldl (fun r signature => r.register ⟨signature, none⟩) r

end Registry

def Config.toRegistry (c : Config) : Except Error (Registry Unit) :=
  match (Registry.ofTypes c.types ()).addAll c.references with
  | .ok r => .ok (r.registerAll c.operators)
  | .error e => .error e

end FilterLanguage
