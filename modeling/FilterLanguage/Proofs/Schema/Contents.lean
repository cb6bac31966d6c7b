import FilterLanguage.Proofs.Resolution.Growth
import FilterLanguage.Schema.Config
import Mathlib.Data.List.Nodup

/-!
# What a registry holds

The contents of a registry can be told from the calls that were made.  Its
references are those of the additions that were not refused, its vocabulary
comes from their types, and its overloads are all that were registered.  One
addition or registration keeps the invariant, and a refused addition changes
nothing; so it holds after any calls in any order.
-/

namespace FilterLanguage

/-! ## Lists without later duplicates -/

theorem insertNew_eraseDups {α : Type} [DecidableEq α] (xs : List α) (x : α) :
    insertNew xs.eraseDups x = (xs ++ [x]).eraseDups := by
  rw [insertNew, List.eraseDups_append]
  simp only [List.mem_eraseDups]
  by_cases hx : x ∈ xs
  · simp [hx, List.removeAll]
  · simp [hx, List.removeAll, List.eraseDups_cons]

theorem foldl_insertNew {α : Type} [DecidableEq α] (xs ys : List α) :
    ys.foldl insertNew xs.eraseDups = (xs ++ ys).eraseDups := by
  induction ys generalizing xs with
  | nil => rw [List.foldl_nil, List.append_nil]
  | cons y ys ih =>
    rw [List.foldl_cons, insertNew_eraseDups, ih, List.append_assoc,
      List.singleton_append]

theorem distinct_eq_eraseDups {α : Type} [DecidableEq α] (xs : List α) :
    distinct xs = xs.eraseDups :=
  foldl_insertNew [] xs

/-- The four wildcards, and for each type the token, its reference form and its
array form. -/
def vocabulary (types : List String) : List TypeToken :=
  [⟨.any, false, false⟩, ⟨.any, false, true⟩, ⟨.any, true, false⟩,
      ⟨.any, true, true⟩] ++
    types.flatMap fun type =>
      [⟨.named type, false, false⟩, ⟨.named type, true, false⟩,
        ⟨.named type, false, true⟩]

theorem vocabulary_append_singleton (types : List String) (type : String) :
    vocabulary (types ++ [type]) = vocabulary types ++ vocabularyOf type := by
  rw [vocabulary, List.flatMap_append, ← List.append_assoc,
    List.flatMap_singleton]
  rfl

namespace Registry

variable {σ : Type} {r r' : Registry σ} {given : List String} {a : σ}
  {present : List Reference} {listed : List (Overload σ)}
  {reference : Reference}

/-- Only overloads are registered by these declarations. -/
def registered : List (Declaration σ) → List (Overload σ)
  | [] => []
  | .add _ :: later => registered later
  | .register o :: later => o :: registered later

/-- The references of the additions that are not refused. -/
def added (r : Registry σ) : List (Declaration σ) → List Reference
  | [] => []
  | .register o :: later => (r.register o).added later
  | .add reference :: later =>
    match r.add reference with
    | .ok extended => reference :: extended.added later
    | .error _ => r.added later

structure Holds (r : Registry σ) (given : List String) (a : σ)
    (present : List Reference) (listed : List (Overload σ)) : Prop where
  types : r.types = given.eraseDups
  accumulator : r.accumulator = a
  references : r.references = present
  names : (present.map Reference.name).Nodup
  declared : ∀ reference ∈ present, reference.type ∈ given
  tokens : r.tokens = (vocabulary (present.map Reference.type)).eraseDups
  overloads : r.overloads = listed

/-! ## Looking up -/

theorem find?_eq_none_iff {name : String} :
    r.find? name = none ↔ name ∉ r.references.map Reference.name := by
  simp [find?, List.find?_eq_none]

theorem Holds.find?_eq_some_iff
    (hholds : r.Holds given a present listed) {name : String} :
    r.find? name = some reference ↔
      reference ∈ present ∧ reference.name = name := by
  rw [find?, hholds.references]
  constructor
  · intro hfound
    exact ⟨List.mem_of_find?_eq_some hfound, by simpa using List.find?_some hfound⟩
  · intro hdeclared
    obtain ⟨hmem, rfl⟩ := hdeclared
    cases hfound : present.find? (·.name == reference.name) with
    | none =>
      have hmissing := List.find?_eq_none.mp hfound reference hmem
      simp at hmissing
    | some other =>
      have hname : other.name = reference.name := by
        simpa using List.find?_some hfound
      have hother := List.mem_of_find?_eq_some hfound
      rw [List.inj_on_of_nodup_map hholds.names hother hmem hname]

theorem Holds.reference_eq_ok_iff
    (hholds : r.Holds given a present listed) {name : String} :
    r.reference name = .ok reference ↔
      reference ∈ present ∧ reference.name = name := by
  have hfind : r.reference name = .ok reference ↔
      r.find? name = some reference := by
    unfold Registry.reference
    cases r.find? name <;> simp
  rw [hfind, hholds.find?_eq_some_iff]

theorem Holds.reference_eq_error
    (hholds : r.Holds given a present listed) {name : String}
    (hmissing : name ∉ present.map Reference.name) :
    r.reference name = .error (.notFound .reference name) := by
  rw [← hholds.references] at hmissing
  rw [Registry.reference, find?_eq_none_iff.mpr hmissing]

theorem Holds.operatorNames (hholds : r.Holds given a present listed) :
    r.operatorNames =
      (listed.map fun o => o.signature.operator).eraseDups := by
  rw [Registry.operatorNames, distinct_eq_eraseDups, signatures,
    hholds.overloads, List.map_map]
  rfl

/-! ## Single declarations -/

theorem add_eq_ok (hnew : r.find? reference.name = none)
    (htype : reference.type ∈ r.types) :
    r.add reference = .ok { r with
      references := r.references ++ [reference]
      tokens := (vocabularyOf reference.type).foldl insertNew r.tokens } := by
  simp [add, hnew, htype]

/-- The name is looked at before the type. -/
theorem Holds.add_outcome (hholds : r.Holds given a present listed)
    (reference : Reference) :
    (r.add reference).map (fun _ => ()) =
      if reference.name ∈ present.map Reference.name then
        .error (.alreadyExists reference.name)
      else if reference.type ∉ given then
        .error (.notFound .type reference.type)
      else .ok () := by
  have htypes : reference.type ∈ r.types ↔ reference.type ∈ given := by
    rw [hholds.types, List.mem_eraseDups]
  by_cases hname : reference.name ∈ present.map Reference.name
  · have htaken : (r.find? reference.name).isSome = true := by
      rw [Option.isSome_iff_ne_none, ne_eq, find?_eq_none_iff,
        hholds.references, not_not]
      exact hname
    rw [add, if_pos htaken, if_pos hname]
    rfl
  · have hnew : r.find? reference.name = none := by
      rw [find?_eq_none_iff, hholds.references]
      exact hname
    rw [if_neg hname]
    by_cases htype : reference.type ∈ given
    · rw [add_eq_ok hnew (htypes.mpr htype), if_neg (not_not.mpr htype)]
      rfl
    · have hundeclared : reference.type ∉ r.types := mt htypes.mp htype
      simp [add, hnew, htype, hundeclared, Except.map]

theorem holds_ofTypes (types : List String) (a : σ) :
    (ofTypes types a).Holds types a [] [] := by
  constructor
  · exact distinct_eq_eraseDups types
  · rfl
  · rfl
  · exact List.nodup_nil
  · simp
  · have hwildcards : TypeToken.wildcards = (vocabulary []).eraseDups := by
      decide
    exact hwildcards
  · rfl

theorem Holds.register (hholds : r.Holds given a present listed)
    (o : Overload σ) :
    (r.register o).Holds given a present (listed ++ [o]) := by
  constructor
  · exact hholds.types
  · exact hholds.accumulator
  · exact hholds.references
  · exact hholds.names
  · exact hholds.declared
  · exact hholds.tokens
  · rw [Registry.register, hholds.overloads]

theorem Holds.add (hholds : r.Holds given a present listed)
    (hadd : r.add reference = .ok r') :
    r'.Holds given a (present ++ [reference]) listed := by
  have houtcome := hholds.add_outcome reference
  rw [hadd] at houtcome
  by_cases hname : reference.name ∈ present.map Reference.name
  · rw [if_pos hname] at houtcome
    cases houtcome
  · rw [if_neg hname] at houtcome
    by_cases htype : reference.type ∈ given
    · have hnew : r.find? reference.name = none := by
        rw [find?_eq_none_iff, hholds.references]
        exact hname
      have hdeclared : reference.type ∈ r.types := by
        rw [hholds.types, List.mem_eraseDups]
        exact htype
      rw [add_eq_ok hnew hdeclared] at hadd
      obtain rfl := Except.ok.inj hadd
      constructor
      · exact hholds.types
      · exact hholds.accumulator
      · exact congrArg (· ++ [reference]) hholds.references
      · rw [List.map_append, List.map_singleton, ← List.concat_eq_append]
        exact hholds.names.concat hname
      · exact List.forall_mem_append.mpr
          ⟨hholds.declared, List.forall_mem_singleton.mpr htype⟩
      · rw [hholds.tokens, foldl_insertNew, List.map_append, List.map_singleton,
          vocabulary_append_singleton]
      · exact hholds.overloads
    · rw [if_pos htype] at houtcome
      cases houtcome

/-! ## Any declarations -/

theorem Holds.declareAll (hholds : r.Holds given a present listed)
    (declarations : List (Declaration σ)) :
    (r.declareAll declarations).Holds given a
      (present ++ r.added declarations)
      (listed ++ registered declarations) := by
  induction declarations generalizing r present listed with
  | nil => simpa [Registry.declareAll, added, registered] using hholds
  | cons declaration later ih =>
    cases declaration with
    | register o =>
      have hlater := ih (hholds.register o)
      rw [List.append_assoc, List.singleton_append] at hlater
      exact hlater
    | add reference =>
      have hstep : r.declareAll (.add reference :: later) =
          (r.declare (.add reference)).declareAll later := rfl
      rw [hstep, registered, added, declare]
      cases hadd : r.add reference with
      | ok extended =>
        have hlater := ih (hholds.add hadd)
        rw [List.append_assoc, List.singleton_append] at hlater
        exact hlater
      | error e => exact ih hholds

theorem declareAll_append_refused {declarations : List (Declaration σ)}
    {e : Error} (hrefused : (r.declareAll declarations).add reference = .error e) :
    r.declareAll (declarations ++ [.add reference]) =
      r.declareAll declarations := by
  have hlast : r.declareAll (declarations ++ [.add reference]) =
      (r.declareAll declarations).declare (.add reference) :=
    List.foldl_append
  rw [hlast, declare, hrefused]

/-- After any calls a registry holds the distinct types it was made from, its
accumulator, the references whose additions were not refused, under distinct
names, the vocabulary of their types, and all the overloads.  References are
found by name.  A further addition is refused when its name is taken, or else
when its type is none of the types, and then leaves everything as it is. -/
theorem declareAll_holds (types : List String) (a : σ)
    (declarations : List (Declaration σ)) :
    let start := ofTypes types a
    let r := start.declareAll declarations
    let references := start.added declarations
    let overloads := registered declarations
    r.Holds types a references overloads ∧
    r.operatorNames = (overloads.map fun o => o.signature.operator).eraseDups ∧
    (∀ name, r.get name = r.reference name) ∧
    (∀ name reference, r.reference name = .ok reference ↔
      reference ∈ references ∧ reference.name = name) ∧
    (∀ name, name ∉ references.map Reference.name →
      r.reference name = .error (.notFound .reference name)) ∧
    (∀ reference, (r.add reference).map (fun _ => ()) =
      if reference.name ∈ references.map Reference.name then
        .error (.alreadyExists reference.name)
      else if reference.type ∉ types then
        .error (.notFound .type reference.type)
      else .ok ()) ∧
    (∀ reference e, r.add reference = .error e →
      start.declareAll (declarations ++ [.add reference]) = r) := by
  intro start r references overloads
  have hholds : r.Holds types a references overloads :=
    (holds_ofTypes types a).declareAll declarations
  refine ⟨hholds, hholds.operatorNames, fun _ => rfl,
    fun _ _ => hholds.reference_eq_ok_iff,
    fun _ => hholds.reference_eq_error, hholds.add_outcome, ?_⟩
  intro reference e hrefused
  exact declareAll_append_refused hrefused

/-- One addition is refused for its name and one for its type; the token of a
type that comes twice is listed once. -/
theorem declareAll_holds_refusals :
    let x : Reference := ⟨"x", "t", false⟩
    let z : Reference := ⟨"z", "t", true⟩
    let unary : Overload Nat := ⟨⟨.universal, "is", none⟩, none⟩
    let binary : Overload Nat := ⟨⟨.universal, "is", some .any⟩, none⟩
    let declarations : List (Declaration Nat) :=
      [.add x, .register unary, .add ⟨"x", "u", false⟩, .add ⟨"y", "v", false⟩,
        .add z, .register binary]
    let r := (ofTypes ["t", "u", "t"] 7).declareAll declarations
    r.types = ["t", "u"] ∧ r.accumulator = 7 ∧ r.references = [x, z] ∧
      r.tokens = TypeToken.wildcards ++ vocabularyOf "t" ∧
      r.overloads = [unary, binary] ∧ r.operatorNames = ["is"] ∧
      r.get "z" = .ok z ∧
      r.reference "y" = .error (.notFound .reference "y") ∧
      r.add ⟨"x", "v", false⟩ = .error (.alreadyExists "x") ∧
      (ofTypes ["t", "u", "t"] 7).declareAll
        (declarations ++ [.add ⟨"x", "v", false⟩]) = r := by
  intro x z unary binary declarations r
  obtain ⟨hholds, hnames, hget, hfound, hmissing, houtcome, hrefused⟩ :=
    declareAll_holds ["t", "u", "t"] 7 declarations
  have htaken : r.add ⟨"x", "v", false⟩ = .error (.alreadyExists "x") := rfl
  refine ⟨hholds.types, hholds.accumulator, hholds.references, hholds.tokens,
    hholds.overloads, hnames, ?_, hmissing "y" (by decide), htaken,
    hrefused _ _ htaken⟩
  rw [hget, hfound]
  exact ⟨List.mem_of_getElem? (show [x, z][1]? = some z from rfl), rfl⟩

/-! ## Configurations -/

theorem Holds.addAll (hholds : r.Holds given a present listed)
    {references : List Reference} (hadd : r.addAll references = .ok r') :
    r'.Holds given a (present ++ references) listed := by
  induction references generalizing r present with
  | nil =>
    obtain rfl := Except.ok.inj hadd
    rwa [List.append_nil]
  | cons reference later ih =>
    rw [Registry.addAll] at hadd
    cases hfirst : r.add reference with
    | ok extended =>
      rw [hfirst] at hadd
      have hlater := ih (hholds.add hfirst) hadd
      rwa [List.append_assoc, List.singleton_append] at hlater
    | error e =>
      rw [hfirst] at hadd
      cases hadd

theorem Holds.registerAll (hholds : r.Holds given a present listed)
    (signatures : List Signature) :
    (r.registerAll signatures).Holds given a present
      (listed ++ signatures.map fun signature => ⟨signature, none⟩) := by
  induction signatures generalizing r listed with
  | nil => rwa [List.map_nil, List.append_nil]
  | cons signature later ih =>
    have hlater := ih (hholds.register ⟨signature, none⟩)
    rwa [List.append_assoc, List.singleton_append] at hlater

end Registry

theorem Config.holds_of_toRegistry {c : Config} {r : Registry Unit}
    (hmade : c.toRegistry = .ok r) :
    r.Holds c.types () c.references
      (c.operators.map fun signature => ⟨signature, none⟩) := by
  rw [toRegistry] at hmade
  cases hadd : (Registry.ofTypes c.types ()).addAll c.references with
  | ok extended =>
    rw [hadd] at hmade
    obtain rfl := Except.ok.inj hmade
    exact ((Registry.holds_ofTypes c.types ()).addAll hadd).registerAll
      c.operators
  | error e =>
    rw [hadd] at hmade
    cases hmade

end FilterLanguage
