import FilterLanguage.Proofs.Resolution.Application
import FilterLanguage.Proofs.Resolution.FirstMatch

/-!
# Growing registries

A declaration puts a reference or an overload behind those that are there, or is
refused; it never takes anything away.  A later overload comes after the one a
statement was resolved to, and a later reference has another name.  What a group
resolved to therefore stays as it is while its registry grows, and so does what
it does when it is applied.
-/

namespace FilterLanguage

inductive Declaration (σ : Type) where
  | add (reference : Reference)
  | register (o : Overload σ)

namespace Registry

variable {σ : Type} {r r' : Registry σ}

/-- The registry behind a declaration.  One that is refused changes nothing. -/
def declare (r : Registry σ) : Declaration σ → Registry σ
  | .add reference =>
    match r.add reference with
    | .ok extended => extended
    | .error _ => r
  | .register o => r.register o

def declareAll (r : Registry σ) (declarations : List (Declaration σ)) :
    Registry σ :=
  declarations.foldl declare r

/-- References and overloads keep their places, and others come behind them. -/
structure Extends (r r' : Registry σ) : Prop where
  references : r.references <+: r'.references
  overloads : r.overloads <+: r'.overloads

theorem Extends.refl (r : Registry σ) : r.Extends r :=
  ⟨List.prefix_rfl, List.prefix_rfl⟩

theorem Extends.trans {r'' : Registry σ} (hextends : r.Extends r')
    (hextends' : r'.Extends r'') : r.Extends r'' :=
  ⟨hextends.references.trans hextends'.references,
    hextends.overloads.trans hextends'.overloads⟩

/-! ## Declarations -/

theorem extends_of_add {reference : Reference}
    (hadd : r.add reference = .ok r') : r.Extends r' := by
  unfold add at hadd
  split at hadd
  · cases hadd
  · split at hadd
    · cases hadd
    · obtain rfl := Except.ok.inj hadd
      exact ⟨List.prefix_append _ _, List.prefix_rfl⟩

theorem extends_register (r : Registry σ) (o : Overload σ) :
    r.Extends (r.register o) :=
  ⟨List.prefix_rfl, List.prefix_append _ _⟩

theorem extends_declare (r : Registry σ) (declaration : Declaration σ) :
    r.Extends (r.declare declaration) := by
  cases declaration with
  | register o => exact r.extends_register o
  | add reference =>
    cases hadd : r.add reference with
    | ok extended =>
      have hdeclare : r.declare (.add reference) = extended := by
        simp only [declare, hadd]
      rw [hdeclare]
      exact extends_of_add hadd
    | error e =>
      have hdeclare : r.declare (.add reference) = r := by
        simp only [declare, hadd]
      rw [hdeclare]
      exact .refl r

theorem extends_declareAll (r : Registry σ)
    (declarations : List (Declaration σ)) :
    r.Extends (r.declareAll declarations) := by
  induction declarations generalizing r with
  | nil => exact .refl r
  | cons declaration declarations ih =>
    exact (r.extends_declare declaration).trans (ih (r.declare declaration))

/-! ## What stays -/

namespace Extends

theorem find? (hextends : r.Extends r') {name : String} {reference : Reference}
    (hfind : r.find? name = some reference) :
    r'.find? name = some reference :=
  hextends.references.find?_eq_some hfind

theorem getElem? (hextends : r.Extends r') {place : Nat}
    (hplace : place < r.overloads.length) :
    r'.overloads[place]? = r.overloads[place]? := by
  obtain ⟨later, hlater⟩ := hextends.overloads
  rw [← hlater, List.getElem?_append_left hplace]

theorem hasType (hextends : r.Extends r') {x : Operand} {type : TypeToken}
    (htype : r.HasType x type) : r'.HasType x type :=
  htype.mono fun _ _ => hextends.find?

theorem rel_hasType (hextends : r.Extends r') {right : Option Operand}
    {types : Option TypeToken} (hright : Option.Rel r.HasType right types) :
    Option.Rel r'.HasType right types :=
  rel_mono hright fun _ _ => hextends.hasType

/-- No later overload comes before the first one. -/
theorem isFirst (hextends : r.Extends r') {accepts : Signature → Prop}
    {place : Nat} {o : Overload σ} (hfirst : r.IsFirst accepts place o) :
    r'.IsFirst accepts place o := by
  have hplace : place < r.overloads.length :=
    (List.getElem?_eq_some_iff.mp hfirst.found).1
  refine ⟨?_, hfirst.accepted, ?_⟩
  · rw [hextends.getElem? hplace]
    exact hfirst.found
  · intro i hi other hother
    rw [hextends.getElem? (Nat.lt_trans hi hplace)] at hother
    exact hfirst.least i hi other hother

theorem resolvesTo (hextends : r.Extends r') {s : Statement}
    {t : ResolvedStatement} (hresolves : r.ResolvesTo s t) :
    r'.ResolvesTo s t := by
  obtain ⟨o, hsignature, hfirst⟩ := hresolves.first
  exact ⟨hresolves.statement, hextends.hasType hresolves.left,
    hextends.rel_hasType hresolves.right, o, hsignature,
    hextends.isFirst hfirst⟩

theorem isChosen (hextends : r.Extends r') {s : ResolvedStatement}
    {o : Overload σ} (hchosen : r.IsChosen s o) : r'.IsChosen s o := by
  have hplace : s.overload < r.overloads.length :=
    (List.getElem?_eq_some_iff.mp hchosen.found).1
  refine ⟨?_, hchosen.signature⟩
  rw [hextends.getElem? hplace]
  exact hchosen.found

end Extends

/-! ## Application -/

theorem ResolvesTo.isChosen {s : Statement} {t : ResolvedStatement}
    (hresolves : r.ResolvesTo s t) : ∃ o, r.IsChosen t o := by
  obtain ⟨o, hsignature, hfirst⟩ := hresolves.first
  exact ⟨o, hfirst.found, hsignature⟩

theorem isChosen_of_resolve {g : Group Statement}
    {resolved : Group ResolvedStatement} (hresolve : r.resolve g = .ok resolved) :
    ∀ t ∈ resolved.flat, ∃ o, r.IsChosen t o := by
  intro t ht
  have hrelated := resolve_eq_ok_iff.mp hresolve
  obtain ⟨s, -, hresolves⟩ := hrelated.symm.exists_right ht
  exact hresolves.isChosen

theorem Extends.applyAll (hextends : r.Extends r')
    {ss : List ResolvedStatement} (hchosen : ∀ s ∈ ss, ∃ o, r.IsChosen s o)
    (a : σ) : r'.applyAll ss a = r.applyAll ss a := by
  induction ss generalizing a with
  | nil => rfl
  | cons s ss ih =>
    obtain ⟨⟨o, ho⟩, hrest⟩ := List.forall_mem_cons.mp hchosen
    have hstep : r'.applyStatement s a = r.applyStatement s a := by
      rw [applyStatement, applyStatement, chosen?_eq_some_iff.mpr ho,
        chosen?_eq_some_iff.mpr (hextends.isChosen ho)]
    rw [Registry.applyAll, Registry.applyAll, hstep]
    rcases r.applyStatement s a with ⟨outcome, after⟩
    cases outcome with
    | error e => rfl
    | ok _ => exact ih hrest after

/-- Only a transform can stop the application of statements that have their
overloads. -/
theorem applyAll_eq_error {ss : List ResolvedStatement}
    (hchosen : ∀ s ∈ ss, ∃ o, r.IsChosen s o) {a : σ} {e : Error}
    (herror : (r.applyAll ss a).1 = .error e) :
    ∃ s ∈ ss, e = .transformRejected s.signature := by
  have happly := r.applyAll_logged ss a []
  rcases r.runs_or_stops ss a with ⟨calls, b, hruns⟩ |
    ⟨calls, e', b, hstops⟩
  · rw [applyAll_logged_eq_ok_iff.mpr hruns] at happly
    rw [← happly] at herror
    cases herror
  · rw [applyAll_logged_eq_error_iff.mpr hstops] at happly
    rw [← happly] at herror
    obtain rfl := Except.error.inj herror
    obtain ⟨before, s, after, ran, between, last, rfl, -, hrefuses, -⟩ := hstops
    have hs : s ∈ before ++ s :: after :=
      List.mem_append_right before List.mem_cons_self
    refine ⟨s, hs, ?_⟩
    cases hrefuses with
    | missing hmissing =>
      obtain ⟨o, ho⟩ := hchosen s hs
      exact (hmissing o ho).elim
    | run hchosen htransform hrejects => rfl

/-- A group that resolves goes on resolving to the same statements after any
declarations, and applying them has the same outcome and leaves the same
accumulator.  It never lacks an overload. -/
theorem resolve_declareAll (r : Registry σ) (declarations : List (Declaration σ))
    {g : Group Statement} {resolved : Group ResolvedStatement}
    (hresolve : r.resolve g = .ok resolved) :
    (r.declareAll declarations).resolve g = .ok resolved ∧
      ∀ a, (r.declareAll declarations).apply resolved a = r.apply resolved a ∧
        ∀ query candidates, (r.apply resolved a).1 ≠
          .error (.noMatchingOverload query candidates) := by
  have hextends := r.extends_declareAll declarations
  have hchosen := isChosen_of_resolve hresolve
  constructor
  · have hrelated := resolve_eq_ok_iff.mp hresolve
    apply resolve_eq_ok_iff.mpr
    exact hrelated.mono fun s t => hextends.resolvesTo
  · intro a
    simp only [apply, Group.statements_eq_flat]
    refine ⟨hextends.applyAll hchosen a, ?_⟩
    intro query candidates herror
    obtain ⟨s, -, hrejected⟩ := applyAll_eq_error hchosen herror
    cases hrejected

/-- One reference is refused, because its name is taken, and one is new.  The
overload that comes last would fit the statement and reject it. -/
theorem resolve_declareAll_competing :
    let count : Transform Nat := fun _ n => (true, n + 1)
    let refuse : Transform Nat := fun _ n => (false, n)
    let x : TypedOperand := ⟨.reference "x", ⟨.named "t", true, false⟩⟩
    let signature : Signature := ⟨x.type, "is", none⟩
    let r : Registry Nat :=
      ⟨["t"], [⟨"x", "t", false⟩], TypeToken.wildcards,
        [⟨signature, some count⟩], 0⟩
    let declarations : List (Declaration Nat) :=
      [.add ⟨"x", "t", true⟩, .add ⟨"y", "t", false⟩,
        .register ⟨signature, some refuse⟩]
    let g : Group Statement :=
      .nested (.statement ⟨.reference "x", "is", none⟩ .empty) .empty
    let resolved : Group ResolvedStatement :=
      .nested (.statement ⟨x, "is", none, 0, signature⟩ .empty) .empty
    r.resolve g = .ok resolved ∧
      (r.declareAll declarations).references.map Reference.name = ["x", "y"] ∧
      (r.declareAll declarations).signatures = [signature, signature] ∧
      (r.declareAll declarations).resolve g = .ok resolved ∧
      (r.declareAll declarations).apply resolved 7 = (.ok (), 8) := by
  intro count refuse x signature r declarations g resolved
  have hresolve : r.resolve g = .ok resolved := rfl
  obtain ⟨hkept, happly⟩ := resolve_declareAll r declarations hresolve
  have hcounted : r.apply resolved 7 = (.ok (), 8) := by
    rw [apply, Group.statements_eq_flat]
    rfl
  refine ⟨hresolve, rfl, rfl, hkept, ?_⟩
  rw [(happly 7).1, hcounted]

end Registry

end FilterLanguage
