import FilterLanguage.Proofs.Group.Shape
import FilterLanguage.Proofs.Schema.Matching
import FilterLanguage.Resolution.Resolve

/-!
# First-match resolution

A statement resolves to the first overload that fits the types of its operands.
It fails when an operand is not declared, the left one before the right one, or
when no overload fits.  One of these holds of every statement, and a group
resolves just when all its statements do.
-/

namespace FilterLanguage
namespace Registry

variable {σ : Type} {r : Registry σ}

/-- A literal has the type of its kind.  A reference has its declared type, as a
reference, and as an array if it is declared as one. -/
inductive HasType (r : Registry σ) : Operand → TypeToken → Prop
  | number (x : Number) : HasType r (.literal (.number x)) (.named "number")
  | string (value : String) :
      HasType r (.literal (.string value)) (.named "string")
  | boolean (value : Bool) :
      HasType r (.literal (.boolean value)) (.named "boolean")
  | reference {name : String} {reference : Reference}
      (hdeclared : r.find? name = some reference) :
      HasType r (.reference name) ⟨.named reference.type, true, reference.array⟩

/-- Some overload fits the types of the operands. -/
def IsResolvable (r : Registry σ) (s : Statement) : Prop :=
  ∃ left right, r.HasType s.left left ∧ Option.Rel r.HasType s.right right ∧
    ∃ o ∈ r.overloads, o.signature.Fits left s.operator right

/-- The statement with its types and the first overload that fits them. -/
structure ResolvesTo (r : Registry σ) (s : Statement) (t : ResolvedStatement) :
    Prop where
  statement : t.statement = s
  left : r.HasType s.left t.left.type
  right : Option.Rel r.HasType s.right (t.right.map TypedOperand.type)
  first : ∃ o, o.signature = t.signature ∧
    r.IsFirst (fun signature => signature.Fits t.left.type s.operator
      (t.right.map TypedOperand.type)) t.overload o

/-- Why a statement does not resolve. -/
inductive FailsWith (r : Registry σ) (s : Statement) : Error → Prop
  | left {name : String} (hleft : s.left = .reference name)
      (hmissing : r.find? name = none) :
      FailsWith r s (.notFound .reference name)
  | right {name : String} {left : TypeToken} (hleft : r.HasType s.left left)
      (hright : s.right = some (.reference name))
      (hmissing : r.find? name = none) :
      FailsWith r s (.notFound .reference name)
  | overload {left : TypeToken} {right : Option TypeToken}
      (hleft : r.HasType s.left left)
      (hright : Option.Rel r.HasType s.right right)
      (hnone : ∀ o ∈ r.overloads, ¬ o.signature.Fits left s.operator right) :
      FailsWith r s
        (.noMatchingOverload (.exactly left s.operator right) r.signatures)

/-! ## Types of operands -/

theorem HasType.ne_universal {x : Operand} {type : TypeToken}
    (htype : r.HasType x type) : type ≠ TypeToken.universal := by
  cases htype <;>
    simp [TypeToken.named, TypeToken.universal, TypeToken.any,
      TypeToken.asReference]

theorem HasType.typed {x : Operand} {type : TypeToken}
    (htype : r.HasType x type) : r.typed x = .ok ⟨x, type⟩ := by
  cases htype with
  | number x => rfl
  | string value => rfl
  | boolean value => rfl
  | reference hdeclared =>
    simp [Registry.typed, typeOf, Registry.reference, hdeclared,
      Reference.token]

theorem typed_of_missing {name : String} (hmissing : r.find? name = none) :
    r.typed (.reference name) = .error (.notFound .reference name) := by
  simp [Registry.typed, typeOf, Registry.reference, hmissing]

/-- An operand has a type unless it names no declared reference. -/
theorem hasType_or_missing (r : Registry σ) (x : Operand) :
    (∃ type, r.HasType x type) ∨
      ∃ name, x = .reference name ∧ r.find? name = none := by
  cases x with
  | literal value =>
    left
    cases value with
    | number x => exact ⟨_, .number x⟩
    | string value => exact ⟨_, .string value⟩
    | boolean value => exact ⟨_, .boolean value⟩
  | reference name =>
    cases hfind : r.find? name with
    | none => exact .inr ⟨name, rfl, hfind⟩
    | some reference => exact .inl ⟨_, .reference hfind⟩

theorem typedRight_of_hasType {right : Option TypedOperand}
    (hright : Option.Rel r.HasType (right.map TypedOperand.operand)
      (right.map TypedOperand.type)) :
    r.typedRight (right.map TypedOperand.operand) = .ok right := by
  cases right with
  | none => rfl
  | some t =>
    cases hright with
    | some htype =>
      simp only [Option.map_some, typedRight, htype.typed]

theorem exists_typed_of_rel {right : Option Operand} {types : Option TypeToken}
    (hright : Option.Rel r.HasType right types) :
    ∃ typed : Option TypedOperand, typed.map TypedOperand.operand = right ∧
      typed.map TypedOperand.type = types := by
  cases hright with
  | none => exact ⟨none, rfl, rfl⟩
  | @some x type htype => exact ⟨some ⟨x, type⟩, rfl, rfl⟩

theorem rel_or_missing (r : Registry σ) (right : Option Operand) :
    (∃ types, Option.Rel r.HasType right types) ∨
      ∃ name, right = some (.reference name) ∧ r.find? name = none := by
  cases right with
  | none => exact .inl ⟨none, .none⟩
  | some x =>
    rcases r.hasType_or_missing x with ⟨type, htype⟩ | ⟨name, rfl, hmissing⟩
    · exact .inl ⟨some type, .some htype⟩
    · exact .inr ⟨name, rfl, hmissing⟩

theorem ne_universal_of_rel {right : Option Operand}
    {types : Option TypeToken} (hright : Option.Rel r.HasType right types) :
    ∀ token ∈ types, token ≠ TypeToken.universal := by
  intro token htoken
  cases hright with
  | none => cases htoken
  | some htype =>
    obtain rfl := Option.some.inj htoken
    exact htype.ne_universal

/-- What finds the same references gives the same types. -/
theorem HasType.mono {τ : Type} {r' : Registry τ}
    (hfind : ∀ name reference, r.find? name = some reference →
      r'.find? name = some reference) {x : Operand} {type : TypeToken}
    (htype : r.HasType x type) : r'.HasType x type := by
  cases htype with
  | number x => exact .number x
  | string value => exact .string value
  | boolean value => exact .boolean value
  | reference hdeclared => exact .reference (hfind _ _ hdeclared)

/-! ## Single statements -/

theorem IsFirst.congr {accepts accepts' : Signature → Prop} {place : Nat}
    {o : Overload σ} (hfirst : r.IsFirst accepts place o)
    (heq : ∀ signature, accepts signature ↔ accepts' signature) :
    r.IsFirst accepts' place o := by
  have haccepts : accepts = accepts' := funext fun signature =>
    propext (heq signature)
  rw [← haccepts]
  exact hfirst

theorem ResolvesTo.resolveStatement {s : Statement} {t : ResolvedStatement}
    (hresolves : r.ResolvesTo s t) : r.resolveStatement s = .ok t := by
  rcases t with ⟨⟨x, type⟩, operator, right, place, signature⟩
  obtain ⟨rfl, hleft, hright, o, rfl, hfirst⟩ := hresolves
  have hspecial := ne_universal_of_rel hright
  have haccepted := hfirst.congr fun signature =>
    (Query.accepts_exactly_iff hspecial).symm
  obtain ⟨view, hnarrow, hview⟩ := narrowStrict_of_isFirst haccepted
  have htypedLeft := hleft.typed
  have htypedRight := typedRight_of_hasType hright
  simp only [ResolvedStatement.statement] at htypedLeft htypedRight hnarrow ⊢
  simp only [Registry.resolveStatement, htypedLeft, htypedRight, queryFor,
    hnarrow, hview]

theorem FailsWith.resolveStatement {s : Statement} {e : Error}
    (hfails : r.FailsWith s e) : r.resolveStatement s = .error e := by
  rcases s with ⟨x, operator, right⟩
  cases hfails with
  | left hleft hmissing =>
    obtain rfl : x = _ := hleft
    simp only [Registry.resolveStatement, typed_of_missing hmissing]
  | right hleft hright hmissing =>
    obtain rfl : right = _ := hright
    simp only [Registry.resolveStatement, hleft.typed, typedRight,
      typed_of_missing hmissing]
  | @overload left types hleft hright hnone =>
    obtain ⟨typed, hoperand, htypes⟩ := exists_typed_of_rel hright
    subst hoperand htypes
    have hspecial := ne_universal_of_rel hright
    have hrefused : ∀ o ∈ r.overloads,
        ¬ (Query.exactly left operator
          (typed.map TypedOperand.type)).accepts o.signature = true := by
      intro o ho haccepted
      exact hnone o ho ((Query.accepts_exactly_iff hspecial).mp haccepted)
    have htypedRight := typedRight_of_hasType hright
    simp only [Registry.resolveStatement, hleft.typed, htypedRight, queryFor,
      narrowStrict_of_forall_not hrefused]

theorem exists_resolvesTo {s : Statement} {left : TypeToken}
    {right : Option TypeToken} {place : Nat} {o : Overload σ}
    (hleft : r.HasType s.left left) (hright : Option.Rel r.HasType s.right right)
    (hfirst : r.IsFirst (fun signature => signature.Fits left s.operator right)
      place o) : ∃ t, r.ResolvesTo s t := by
  obtain ⟨typed, hoperand, htypes⟩ := exists_typed_of_rel hright
  subst htypes
  refine ⟨⟨⟨s.left, left⟩, s.operator, typed, place, o.signature⟩,
    ?_, hleft, hright, o, rfl, hfirst⟩
  rw [ResolvedStatement.statement, hoperand]

theorem resolvesTo_or_failsWith (r : Registry σ) (s : Statement) :
    (∃ t, r.ResolvesTo s t) ∨ ∃ e, r.FailsWith s e := by
  rcases r.hasType_or_missing s.left with ⟨left, hleft⟩ | ⟨name, hname, hmissing⟩
  · rcases r.rel_or_missing s.right with ⟨right, hright⟩ | ⟨name, hname, hmissing⟩
    · rcases r.exists_isFirst_or
          (fun signature => signature.Fits left s.operator right) with
        ⟨place, o, hfirst⟩ | hnone
      · exact .inl (exists_resolvesTo hleft hright hfirst)
      · exact .inr ⟨_, .overload hleft hright hnone⟩
    · exact .inr ⟨_, .right hleft hname hmissing⟩
  · exact .inr ⟨_, .left hname hmissing⟩

theorem resolveStatement_eq_ok_iff {s : Statement} {t : ResolvedStatement} :
    r.resolveStatement s = .ok t ↔ r.ResolvesTo s t :=
  eq_ok_iff_of_exhaustive (fun _ => ResolvesTo.resolveStatement)
    (fun _ => FailsWith.resolveStatement) (r.resolvesTo_or_failsWith s)

theorem resolveStatement_eq_error_iff {s : Statement} {e : Error} :
    r.resolveStatement s = .error e ↔ r.FailsWith s e :=
  eq_error_iff_of_exhaustive (fun _ => ResolvesTo.resolveStatement)
    (fun _ => FailsWith.resolveStatement) (r.resolvesTo_or_failsWith s)

theorem exists_resolveStatement_iff {s : Statement} :
    (∃ t, r.resolveStatement s = .ok t) ↔ r.IsResolvable s := by
  constructor
  · rintro ⟨t, hresolve⟩
    obtain ⟨-, hleft, hright, o, -, hfirst⟩ :=
      resolveStatement_eq_ok_iff.mp hresolve
    exact ⟨_, _, hleft, hright, o, List.mem_of_getElem? hfirst.found,
      hfirst.accepted⟩
  · rintro ⟨left, right, hleft, hright, o, ho, hfits⟩
    rcases r.exists_isFirst_or
        (fun signature => signature.Fits left s.operator right) with
      ⟨place, first, hfirst⟩ | hnone
    · obtain ⟨t, hresolves⟩ := exists_resolvesTo hleft hright hfirst
      exact ⟨t, hresolves.resolveStatement⟩
    · exact (hnone o ho hfits).elim

theorem ResolvesTo.text {s : Statement} {t : ResolvedStatement}
    (hresolves : r.ResolvesTo s t) : t.text = s.text := by
  rw [ResolvedStatement.text, hresolves.statement]

theorem ResolvesTo.arity {s : Statement} {t : ResolvedStatement}
    (hresolves : r.ResolvesTo s t) :
    t.signature.right.isSome = s.right.isSome := by
  obtain ⟨o, hsignature, hfirst⟩ := hresolves.first
  have htypes := isSome_eq_of_rel hresolves.right
  have hfits := isSome_eq_of_rel hfirst.accepted.right
  rw [hsignature] at hfits
  rw [htypes, hfits]

/-! ## Groups -/

theorem resolve_eq_ok_iff {g : Group Statement}
    {resolved : Group ResolvedStatement} :
    r.resolve g = .ok resolved ↔ Group.Related r.ResolvesTo g resolved := by
  rw [resolve, Group.mapM_eq_ok_iff]
  constructor
  · intro hrelated
    exact hrelated.mono fun s t => resolveStatement_eq_ok_iff.mp
  · intro hrelated
    exact hrelated.mono fun s t => resolveStatement_eq_ok_iff.mpr

theorem map_statement_of_resolve {g : Group Statement}
    {resolved : Group ResolvedStatement} (hresolve : r.resolve g = .ok resolved) :
    resolved.map ResolvedStatement.statement = g := by
  have hrelated := resolve_eq_ok_iff.mp hresolve
  apply Group.Related.map_eq
  exact hrelated.mono fun s t hresolves => hresolves.statement

theorem text_of_resolve {g : Group Statement}
    {resolved : Group ResolvedStatement} (hresolve : r.resolve g = .ok resolved) :
    resolved.text ResolvedStatement.text = g.text Statement.text := by
  have hrelated := resolve_eq_ok_iff.mp hresolve
  symm
  apply hrelated.text_eq
  intro s t hresolves
  exact hresolves.text.symm

theorem resolve_eq_error_iff {g : Group Statement} {e : Error} :
    r.resolve g = .error e ↔ ∃ before s after,
      g.flat = before ++ s :: after ∧
      (∀ t ∈ before, r.IsResolvable t) ∧ r.FailsWith s e := by
  rw [resolve, Group.mapM_eq_error_iff]
  simp only [Group.FailsFirst, exists_resolveStatement_iff,
    resolveStatement_eq_error_iff]

/-- A group resolves just when every statement has declared operands and an
overload that fits them.  The result has the shape of the group, its statements,
its text, and the first overload for each statement, of the same arity.  A
failure is that of the first statement that does not resolve. -/
theorem resolve_isFirstMatch (r : Registry σ) (g : Group Statement) :
    ((∃ resolved, r.resolve g = .ok resolved) ↔
      ∀ s ∈ g.flat, r.IsResolvable s) ∧
    (∀ resolved, r.resolve g = .ok resolved ↔
      Group.Related r.ResolvesTo g resolved) ∧
    (∀ resolved, r.resolve g = .ok resolved →
      resolved.map ResolvedStatement.statement = g ∧
      resolved.text ResolvedStatement.text = g.text Statement.text ∧
      Group.Related (fun s t => t.signature.right.isSome = s.right.isSome)
        g resolved) ∧
    (∀ e, r.resolve g = .error e ↔ ∃ before s after,
      g.flat = before ++ s :: after ∧
      (∀ t ∈ before, r.IsResolvable t) ∧ r.FailsWith s e) := by
  refine ⟨?_, fun resolved => resolve_eq_ok_iff, ?_,
    fun e => resolve_eq_error_iff⟩
  · simp only [resolve, Group.exists_mapM_iff, exists_resolveStatement_iff]
  · intro resolved hresolve
    have hrelated := resolve_eq_ok_iff.mp hresolve
    refine ⟨map_statement_of_resolve hresolve, text_of_resolve hresolve, ?_⟩
    exact hrelated.mono fun s t hresolves => hresolves.arity

/-- A type declared as `any` is no wildcard, so that the unary overload, which
`$any` would find, is passed over. -/
theorem resolve_passes_over_unary :
    let r : Registry Unit :=
      ⟨["any"], [⟨"x", "any", false⟩], TypeToken.wildcards,
        [⟨⟨.universal, "is", none⟩, none⟩,
          ⟨⟨.universal, "is", some .universal⟩, none⟩], ()⟩
    let g : Group Statement :=
      .nested
        (.statement ⟨.reference "x", "is", some (.reference "x")⟩ .empty) .empty
    ∃ resolved, r.resolve g = .ok resolved ∧
      resolved.map ResolvedStatement.statement = g ∧
      resolved.flat.map ResolvedStatement.overload = [1] := by
  intro r g
  have hresolve : r.resolve g = .ok
      (.nested
        (.statement
          ⟨⟨.reference "x", ⟨.named "any", true, false⟩⟩, "is",
            some ⟨.reference "x", ⟨.named "any", true, false⟩⟩, 1,
            ⟨.universal, "is", some .universal⟩⟩ .empty) .empty) := by
    rfl
  have hkept := (resolve_isFirstMatch r g).2.2.1 _ hresolve
  exact ⟨_, hresolve, hkept.1, rfl⟩

end Registry

end FilterLanguage
