import FilterLanguage.Proofs.Schema.Contents

/-!
# Order of declaration

The order in which references are added does not matter, because each name is
declared once.  The order in which overloads are registered decides which one a
statement takes, and nothing else: whether it resolves, to which types, and which
statement of a group is the first to fail.
-/

namespace FilterLanguage

/-- The operands have the same types; the overloads may differ. -/
structure ResolvedStatement.TypedAs (t t' : ResolvedStatement) : Prop where
  left : t.left = t'.left
  operator : t.operator = t'.operator
  right : t.right = t'.right

/-- The failure of a resolution, up to the order of the candidates. -/
inductive Error.SameCause : Error → Error → Prop
  | notFound (name : String) :
      SameCause (.notFound .reference name) (.notFound .reference name)
  | noMatchingOverload (q : Query) {candidates candidates' : List Signature}
      (hcandidates : candidates.Perm candidates') :
      SameCause (.noMatchingOverload q candidates)
        (.noMatchingOverload q candidates')

namespace Registry

variable {σ τ : Type} {r : Registry σ} {r' : Registry τ}

/-- The statements in front resolve, and this one is the first that fails. -/
structure StopsBehind (r : Registry σ) (g : Group Statement)
    (before : List Statement) (s : Statement) (e : Error) : Prop where
  flat : ∃ after, g.flat = before ++ s :: after
  resolvable : ∀ t ∈ before, r.IsResolvable t
  fails : r.FailsWith s e

/-- Both registries resolve the group, to the same operands and types, or they
fail at the same statement and for the same cause. -/
inductive ResolveAlike (r : Registry σ) (r' : Registry τ)
    (g : Group Statement) : Prop
  | resolved {resolved resolved' : Group ResolvedStatement}
      (hresolve : r.resolve g = .ok resolved)
      (hresolve' : r'.resolve g = .ok resolved')
      (hsame : Group.Related ResolvedStatement.TypedAs resolved resolved')
  | failed {before : List Statement} {s : Statement} {e e' : Error}
      (hstops : r.StopsBehind g before s e)
      (hstops' : r'.StopsBehind g before s e')
      (hresolve : r.resolve g = .error e)
      (hresolve' : r'.resolve g = .error e') (hsame : e.SameCause e')

/-- Names are looked up with the same outcome, and the same signatures are
registered. -/
structure SameDeclarations (r : Registry σ) (r' : Registry τ) : Prop where
  find? : ∀ name, r.find? name = r'.find? name
  signatures : r.signatures.Perm r'.signatures

theorem StopsBehind.resolve {g : Group Statement} {before : List Statement}
    {s : Statement} {e : Error} (hstops : r.StopsBehind g before s e) :
    r.resolve g = .error e := by
  obtain ⟨after, hflat⟩ := hstops.flat
  exact resolve_eq_error_iff.mpr
    ⟨before, s, after, hflat, hstops.resolvable, hstops.fails⟩

theorem exists_stopsBehind {g : Group Statement} {e : Error}
    (hresolve : r.resolve g = .error e) :
    ∃ before s, r.StopsBehind g before s e := by
  obtain ⟨before, s, after, hflat, hresolvable, hfails⟩ :=
    resolve_eq_error_iff.mp hresolve
  exact ⟨before, s, ⟨after, hflat⟩, hresolvable, hfails⟩

/-! ## Same declarations -/

theorem Holds.find?_congr {given given' : List String} {a : σ} {a' : τ}
    {present present' : List Reference} {listed : List (Overload σ)}
    {listed' : List (Overload τ)} (hholds : r.Holds given a present listed)
    (hholds' : r'.Holds given' a' present' listed')
    (hreferences : ∀ reference,
      reference ∈ r.references ↔ reference ∈ r'.references) (name : String) :
    r.find? name = r'.find? name := by
  rw [hholds.references, hholds'.references] at hreferences
  apply Option.ext
  intro reference
  rw [hholds.find?_eq_some_iff, hholds'.find?_eq_some_iff, hreferences]

theorem exists_overload_iff {p : Signature → Prop} :
    (∃ o ∈ r.overloads, p o.signature) ↔
      ∃ signature ∈ r.signatures, p signature := by
  simp [signatures]

namespace SameDeclarations

theorem symm (hsame : r.SameDeclarations r') : r'.SameDeclarations r :=
  ⟨fun name => (hsame.find? name).symm, hsame.signatures.symm⟩

theorem hasType (hsame : r.SameDeclarations r') {x : Operand}
    {type : TypeToken} (htype : r.HasType x type) : r'.HasType x type := by
  apply htype.mono
  intro name reference hdeclared
  rw [← hsame.find? name, hdeclared]

theorem rel_hasType (hsame : r.SameDeclarations r') {right : Option Operand}
    {types : Option TypeToken} (hright : Option.Rel r.HasType right types) :
    Option.Rel r'.HasType right types :=
  rel_mono hright fun _ _ => hsame.hasType

theorem exists_overload (hsame : r.SameDeclarations r') {p : Signature → Prop}
    (hsome : ∃ o ∈ r.overloads, p o.signature) :
    ∃ o ∈ r'.overloads, p o.signature := by
  obtain ⟨signature, hmem, hp⟩ := exists_overload_iff.mp hsome
  exact exists_overload_iff.mpr
    ⟨signature, hsame.signatures.mem_iff.mp hmem, hp⟩

theorem isResolvable (hsame : r.SameDeclarations r') {s : Statement}
    (hs : r.IsResolvable s) : r'.IsResolvable s := by
  obtain ⟨left, right, hleft, hright, hfits⟩ := hs
  exact ⟨left, right, hsame.hasType hleft, hsame.rel_hasType hright,
    hsame.exists_overload (p := (·.Fits left s.operator right)) hfits⟩

/-- The candidates that a failure tells are all the signatures. -/
theorem failsWith (hsame : r.SameDeclarations r') {s : Statement} {e : Error}
    (hfails : r.FailsWith s e) : ∃ e', r'.FailsWith s e' ∧ e.SameCause e' := by
  cases hfails with
  | @left name hleft hmissing =>
    exact ⟨_, .left hleft ((hsame.find? _).symm.trans hmissing), .notFound name⟩
  | @right name left hleft hright hmissing =>
    exact ⟨_, .right (hsame.hasType hleft) hright
      ((hsame.find? _).symm.trans hmissing), .notFound name⟩
  | @overload left right hleft hright hnone =>
    refine ⟨_, .overload (hsame.hasType hleft) (hsame.rel_hasType hright) ?_,
      .noMatchingOverload _ hsame.signatures⟩
    intro o ho hfits
    obtain ⟨o', ho', hfits'⟩ := hsame.symm.exists_overload
      (p := (·.Fits left s.operator right)) ⟨o, ho, hfits⟩
    exact hnone o' ho' hfits'

theorem stopsBehind (hsame : r.SameDeclarations r') {g : Group Statement}
    {before : List Statement} {s : Statement} {e : Error}
    (hstops : r.StopsBehind g before s e) :
    ∃ e', r'.StopsBehind g before s e' ∧ e.SameCause e' := by
  obtain ⟨e', hfails, hcause⟩ := hsame.failsWith hstops.fails
  exact ⟨e', ⟨hstops.flat,
    fun t ht => hsame.isResolvable (hstops.resolvable t ht), hfails⟩, hcause⟩

end SameDeclarations

/-! ## Same types -/

theorem SameDeclarations.typed (hsame : r.SameDeclarations r') (x : Operand) :
    r.typed x = r'.typed x := by
  have htype : r.typeOf x = r'.typeOf x := by
    cases x with
    | literal value => rfl
    | reference name => simp only [typeOf, Registry.reference, hsame.find?]
  rw [Registry.typed, Registry.typed, htype]

theorem SameDeclarations.typedRight (hsame : r.SameDeclarations r')
    (right : Option Operand) : r.typedRight right = r'.typedRight right := by
  cases right with
  | none => rfl
  | some x => rw [Registry.typedRight, Registry.typedRight, hsame.typed]

theorem ResolvesTo.typed {s : Statement} {t : ResolvedStatement}
    (hresolves : r.ResolvesTo s t) :
    r.typed s.left = .ok t.left ∧ r.typedRight s.right = .ok t.right := by
  obtain ⟨rfl, hleft, hright, -⟩ := hresolves
  exact ⟨hleft.typed, typedRight_of_hasType hright⟩

theorem SameDeclarations.typedAs (hsame : r.SameDeclarations r')
    {s : Statement} {t t' : ResolvedStatement} (hresolves : r.ResolvesTo s t)
    (hresolves' : r'.ResolvesTo s t') : t.TypedAs t' := by
  obtain ⟨hleft, hright⟩ := hresolves.typed
  obtain ⟨hleft', hright'⟩ := hresolves'.typed
  rw [hsame.typed, hleft'] at hleft
  rw [hsame.typedRight, hright'] at hright
  have hoperator : t.statement.operator = t'.statement.operator := by
    rw [hresolves.statement, hresolves'.statement]
  exact ⟨(Except.ok.inj hleft).symm, hoperator, (Except.ok.inj hright).symm⟩

/-- The statement that fails in one registry fails in the other one. -/
theorem SameDeclarations.resolveAlike (hsame : r.SameDeclarations r')
    (g : Group Statement) : r.ResolveAlike r' g := by
  cases hresolve : r.resolve g with
  | ok resolved =>
    cases hresolve' : r'.resolve g with
    | ok resolved' =>
      refine .resolved hresolve hresolve' ?_
      exact (resolve_eq_ok_iff.mp hresolve).join (resolve_eq_ok_iff.mp hresolve')
        fun s t t' => hsame.typedAs
    | error e' =>
      obtain ⟨before, s, hstops'⟩ := exists_stopsBehind hresolve'
      obtain ⟨e, hstops, -⟩ := hsame.symm.stopsBehind hstops'
      rw [hstops.resolve] at hresolve
      cases hresolve
  | error e =>
    obtain ⟨before, s, hstops⟩ := exists_stopsBehind hresolve
    obtain ⟨e', hstops', hcause⟩ := hsame.stopsBehind hstops
    exact .failed hstops hstops' hresolve hstops'.resolve hcause

/-! ## Same order of overloads -/

theorem exists_isFirst_iff {accepts : Signature → Prop} {place : Nat}
    {signature : Signature} :
    (∃ o, o.signature = signature ∧ r.IsFirst accepts place o) ↔
      r.signatures[place]? = some signature ∧ accepts signature ∧
        ∀ i < place, ∀ other, r.signatures[i]? = some other →
          ¬ accepts other := by
  have hfound : ∀ (i : Nat) (other : Signature),
      r.signatures[i]? = some other ↔
        ∃ o, r.overloads[i]? = some o ∧ o.signature = other := by
    intro i other
    rw [signatures, List.getElem?_map, Option.map_eq_some_iff]
  simp only [hfound]
  constructor
  · rintro ⟨o, rfl, hfirst⟩
    refine ⟨⟨o, hfirst.found, rfl⟩, hfirst.accepted, ?_⟩
    rintro i hi other ⟨o', ho', rfl⟩
    exact hfirst.least i hi o' ho'
  · rintro ⟨⟨o, ho, rfl⟩, haccepted, hleast⟩
    exact ⟨o, rfl, ho, haccepted, fun i hi o' ho' => hleast i hi _ ⟨o', ho', rfl⟩⟩

theorem SameDeclarations.resolvesTo (hsame : r.SameDeclarations r')
    (hsignatures : r.signatures = r'.signatures) {s : Statement}
    {t : ResolvedStatement} (hresolves : r.ResolvesTo s t) :
    r'.ResolvesTo s t := by
  refine ⟨hresolves.statement, hsame.hasType hresolves.left,
    hsame.rel_hasType hresolves.right, ?_⟩
  rw [exists_isFirst_iff, ← hsignatures]
  exact exists_isFirst_iff.mp hresolves.first

theorem FailsWith.candidates_eq {s : Statement} {q : Query}
    {candidates : List Signature}
    (hfails : r.FailsWith s (.noMatchingOverload q candidates)) :
    candidates = r.signatures := by
  cases hfails
  rfl

theorem SameDeclarations.resolve_eq (hsame : r.SameDeclarations r')
    (hsignatures : r.signatures = r'.signatures) (g : Group Statement) :
    r.resolve g = r'.resolve g := by
  cases hsame.resolveAlike g with
  | @resolved resolved resolved' hresolve hresolve' =>
    rw [hresolve, eq_comm, resolve_eq_ok_iff]
    exact (resolve_eq_ok_iff.mp hresolve).mono
      fun s t => hsame.resolvesTo hsignatures
  | @failed before s e e' hstops hstops' hresolve hresolve' hcause =>
    rw [hresolve, hresolve']
    cases hcause with
    | notFound name => rfl
    | @noMatchingOverload q candidates candidates' hcandidates =>
      rw [hstops.fails.candidates_eq, hstops'.fails.candidates_eq, hsignatures]

/-- Registries with the same references and the same signatures, however they
came to be and in whatever order, resolve the same groups to the same types and
fail at the same statements.  If the overloads are in the same order, they
resolve every group to the same statements or to the same error. -/
theorem resolve_order_independent (types types' : List String) (a : σ) (a' : τ)
    (declarations : List (Declaration σ))
    (declarations' : List (Declaration τ)) :
    let r := (ofTypes types a).declareAll declarations
    let r' := (ofTypes types' a').declareAll declarations'
    (∀ reference, reference ∈ r.references ↔ reference ∈ r'.references) →
    r.signatures.Perm r'.signatures →
    ∀ g : Group Statement, r.ResolveAlike r' g ∧
      (r.signatures = r'.signatures → r.resolve g = r'.resolve g) := by
  intro r r' hreferences hsignatures g
  have hholds := (holds_ofTypes types a).declareAll declarations
  have hholds' := (holds_ofTypes types' a').declareAll declarations'
  have hsame : r.SameDeclarations r' :=
    ⟨hholds.find?_congr hholds' hreferences, hsignatures⟩
  exact ⟨hsame.resolveAlike g, fun heq => hsame.resolve_eq heq g⟩

/-- The statement on `x` takes another overload when the overloads change places,
and the one on `y` fails with the candidates the other way round.  When only the
references change places, nothing changes. -/
theorem resolve_order_independent_swapped :
    let x : Reference := ⟨"x", "t", false⟩
    let y : Reference := ⟨"y", "u", true⟩
    let every : Signature := ⟨.universal, "is", none⟩
    let exact : Signature := ⟨x.token, "is", none⟩
    let given : List (Declaration Nat) :=
      [.add x, .add y, .register ⟨every, none⟩, .register ⟨exact, none⟩]
    let swapping : List (Declaration Unit) :=
      [.register ⟨exact, none⟩, .add y, .add ⟨"y", "t", false⟩, .add x,
        .register ⟨every, none⟩]
    let moving : List (Declaration Unit) :=
      [.add y, .register ⟨every, none⟩, .add x, .register ⟨exact, none⟩]
    let r := (ofTypes ["t", "u"] 7).declareAll given
    let swapped := (ofTypes ["u", "t"] ()).declareAll swapping
    let moved := (ofTypes ["u", "t"] ()).declareAll moving
    let first : Group Statement :=
      .nested (.statement ⟨.reference "x", "is", none⟩ .empty) .empty
    let g : Group Statement :=
      first.append
        (.connective .and (.statement ⟨.reference "y", "has", none⟩ .empty))
    let query : Query := .exactly y.token "has" none
    r.resolve first = .ok (.nested (.statement
        ⟨⟨.reference "x", x.token⟩, "is", none, 0, every⟩ .empty) .empty) ∧
      swapped.resolve first = .ok (.nested (.statement
        ⟨⟨.reference "x", x.token⟩, "is", none, 0, exact⟩ .empty) .empty) ∧
      r.resolve g = .error (.noMatchingOverload query [every, exact]) ∧
      swapped.resolve g = .error (.noMatchingOverload query [exact, every]) ∧
      r.ResolveAlike swapped first ∧ r.ResolveAlike swapped g ∧
      r.resolve g = moved.resolve g := by
  intro x y every exact given swapping moving r swapped moved first g query
  have hr : r.references = [x, y] := rfl
  have hswapped : swapped.references = [y, x] := rfl
  have hmoved : moved.references = [y, x] := rfl
  have hmembers : ∀ reference, reference ∈ [x, y] ↔ reference ∈ [y, x] := by
    intro reference
    simp only [List.mem_cons, List.not_mem_nil, or_false]
    exact or_comm
  have hsignatures : r.signatures.Perm swapped.signatures :=
    List.Perm.swap exact every []
  have hsame : r.signatures = moved.signatures := rfl
  rw [← hr, ← hswapped] at hmembers
  have halike := resolve_order_independent ["t", "u"] ["u", "t"] 7 () given
    swapping hmembers hsignatures
  rw [hswapped, ← hmoved] at hmembers
  have hequal := resolve_order_independent ["t", "u"] ["u", "t"] 7 () given
    moving hmembers (.of_eq hsame) g
  refine ⟨?_, ?_, ?_, ?_, (halike first).1, (halike g).1, hequal.2 hsame⟩
  · rfl
  · rfl
  · rfl
  · rfl

end Registry

end FilterLanguage
