import FilterLanguage.Command.LogEvent
import FilterLanguage.Group.Walk
import FilterLanguage.Resolution.Resolve
import FilterLanguage.Schema.Config

/-!
# Journal

The log events of what commands do, in the order in which things happen.
-/

namespace FilterLanguage

namespace Journal

def added (r : Reference) : LogEvent :=
  ⟨.trace, .declaring, "adding reference", [("name", r.name), ("ty", r.type)]⟩

def registered (s : Signature) : LogEvent :=
  ⟨.trace, .declaring, "registering operator", [("signature", s.text)]⟩

def loaded {σ : Type} (path : String) (r : Registry σ) : LogEvent :=
  ⟨.debug, .loading, "loaded schema",
    [("schema", path), ("references", r.references.length.repr),
      ("overloads", r.overloads.length.repr)]⟩

def parsed (g : Group Statement) : LogEvent :=
  ⟨.trace, .parsing, "parsed filter",
    [("statements", g.statements.length.repr), ("depth", g.depth.repr)]⟩

/-- A query over all overloads that keeps `retained` of them. -/
def narrowed {σ : Type} (r : Registry σ) (q : Query) (retained : Nat) :
    LogEvent :=
  ⟨.debug, .narrowing, "narrowed overloads",
    [("filter", q.text), ("considered", r.overloads.length.repr),
      ("retained", retained.repr)]⟩

def unmatched {σ : Type} (r : Registry σ) (q : Query) : LogEvent :=
  ⟨.debug, .narrowing, "no matching overload",
    [("filter", q.text), ("candidates", describeCandidates r.signatures)]⟩

def resolved (s : ResolvedStatement) : LogEvent :=
  ⟨.debug, .resolving, "resolved statement",
    [("statement", s.text), ("signature", s.signature.text)]⟩

/-- Events of narrowing all overloads, which fails on nothing left only when it
is strict. -/
def narrowing {σ : Type} (r : Registry σ) (q : Query) (strict : Bool) :
    List LogEvent :=
  let view := r.narrow q
  narrowed r q view.indices.length ::
    if strict && view.isEmpty then [unmatched r q] else []

/-- Events of adding references, up to the first that cannot be added. -/
def adding {σ : Type} (r : Registry σ) : List Reference → List LogEvent
  | [] => []
  | reference :: rest =>
    match r.add reference with
    | .ok extended => added reference :: adding extended rest
    | .error _ => []

def making (c : Config) : List LogEvent :=
  let references := adding (Registry.ofTypes c.types ()) c.references
  match c.toRegistry with
  | .ok _ => references ++ c.operators.map registered
  | .error _ => references

def resolvingStatement {σ : Type} (r : Registry σ) (s : Statement) :
    List LogEvent :=
  match r.resolveStatement s with
  | .ok found =>
    let query := Registry.queryFor found.left found.operator found.right
    narrowing r query true ++ [resolved found]
  | .error (.noMatchingOverload query _) => narrowing r query true
  | .error _ => []

/-- Events of resolving statements up to the first that fails. -/
def resolving {σ : Type} (r : Registry σ) : List Statement → List LogEvent
  | [] => []
  | s :: rest =>
    resolvingStatement r s ++
      match r.resolveStatement s with
      | .ok _ => resolving r rest
      | .error _ => []

end Journal

end FilterLanguage
