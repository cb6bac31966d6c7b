import FilterLanguage.Command.Run
import FilterLanguage.Proofs.Schema.Contents
import FilterLanguage.Proofs.Schema.Narrowing
import FilterLanguage.Proofs.Schema.TypeText

/-!
# Narrowing by the texts of types

A statement that resolves has types, and their texts can be given to the command
that narrows.  What these texts are read as is the same types again if the
declared ones have names that can be read; then the first overload that is left
is the one that the statement was resolved to.
-/

namespace FilterLanguage

/-- One of the operands is the name of the reference. -/
def Statement.Mentions (s : Statement) (name : String) : Prop :=
  s.left = .reference name ∨ s.right = some (.reference name)

/-- The options that ask for the types of a statement by their texts. -/
def NarrowOptions.ofResolved (schema : String) (strict : Bool)
    (t : ResolvedStatement) : NarrowOptions where
  schema := schema
  left := some t.left.type.text
  operator := some t.operator
  right := t.right.map fun right => right.type.text
  unary := t.right.isNone
  strict := strict

variable {σ : Type} {r : Registry σ} {s : Statement} {t : ResolvedStatement}

theorem Command.queryOf_ofResolved (hleft : t.left.type.IsWritable)
    (hright : ∀ type ∈ t.right.map TypedOperand.type, type.IsWritable)
    (schema : String) (strict : Bool) :
    queryOf (.ofResolved schema strict t) =
      .ok (.exactly t.left.type t.operator (t.right.map TypedOperand.type)) := by
  have hparse := hleft.parse_text
  cases hoperand : t.right with
  | none =>
    simp [queryOf, NarrowOptions.ofResolved, Query.exactly,
      RightQuery.ofOperand, hparse, hoperand, bind, Except.bind, pure,
      Except.pure]
  | some x =>
    have htype : x.type ∈ t.right.map TypedOperand.type := by
      rw [hoperand]
      rfl
    have hparseRight := (hright x.type htype).parse_text
    simp [queryOf, NarrowOptions.ofResolved, Query.exactly,
      RightQuery.ofOperand, hparse, hparseRight, hoperand, bind, Except.bind,
      pure, Except.pure]

namespace Registry

theorem HasType.isWritable {x : Operand} {type : TypeToken}
    (htype : r.HasType x type)
    (hnames : ∀ reference ∈ r.references, x = .reference reference.name →
      IsTypeName reference.type ∧ reference.type ≠ "any") :
    type.IsWritable := by
  cases htype with
  | number x => exact ⟨by decide +kernel, by decide⟩
  | string value => exact ⟨by decide +kernel, by decide⟩
  | boolean value => exact ⟨by decide +kernel, by decide⟩
  | @reference name reference hdeclared =>
    have hname : reference.name = name := by
      simpa using List.find?_some hdeclared
    apply hnames reference (List.mem_of_find?_eq_some hdeclared)
    rw [hname]

theorem isWritable_of_rel {right : Option Operand} {types : Option TypeToken}
    (hright : Option.Rel r.HasType right types)
    (hnames : ∀ reference ∈ r.references,
      right = some (.reference reference.name) →
        IsTypeName reference.type ∧ reference.type ≠ "any") :
    ∀ type ∈ types, type.IsWritable := by
  intro type htype
  cases hright with
  | none => cases htype
  | some hoperand =>
    obtain rfl := Option.some.inj htype
    apply hoperand.isWritable
    intro reference hreference hname
    exact hnames reference hreference (congrArg some hname)

theorem ResolvesTo.first?_narrow (hresolves : r.ResolvesTo s t) :
    let q := Query.exactly t.left.type t.operator
      (t.right.map TypedOperand.type)
    r.narrowStrict q = .ok (r.narrow q) ∧
      ∃ o, (r.narrow q).first? = some (t.overload, o) ∧
        o.signature = t.signature := by
  intro q
  obtain ⟨o, hsignature, hfirst⟩ := hresolves.first
  have hoperator : t.operator = s.operator :=
    congrArg Statement.operator hresolves.statement
  have hspecial := ne_universal_of_rel hresolves.right
  have haccepted : r.IsFirst (fun signature => q.accepts signature = true)
      t.overload o := by
    apply hfirst.congr
    intro signature
    rw [← hoperator]
    exact (Query.accepts_exactly_iff hspecial).symm
  obtain ⟨view, hstrict, hview⟩ := narrowStrict_of_isFirst haccepted
  obtain rfl : view = r.narrow q := View.eq_narrow_of_narrowStrict hstrict
  exact ⟨hstrict, o, hview, hsignature⟩

end Registry

/-- The first overload of a view has the first signature. -/
theorem View.exists_signatures_eq {v : View σ} {place : Nat} {o : Overload σ}
    (hfirst : v.first? = some (place, o)) :
    ∃ later, v.signatures = o.signature :: later := by
  rcases v with ⟨r, indices⟩
  cases indices with
  | nil => cases hfirst
  | cons i rest =>
    obtain ⟨found, hfound, hpair⟩ := Option.map_eq_some_iff.mp hfirst
    obtain ⟨rfl, rfl⟩ := Prod.mk.inj hpair
    refine ⟨(View.mk r rest).signatures, ?_⟩
    dsimp only at hfound
    simp [signatures, overloads, hfound]

/-- A statement resolves to the first overload that narrowing by the texts of its
types leaves, strictly or not, and its signature is printed first, provided that
the types of the references in it have names that can be read and are not called
`any`. -/
theorem Command.narrow_first_resolved {c : Config} {r : Registry Unit}
    (hmade : c.toRegistry = .ok r) (hresolve : r.resolveStatement s = .ok t)
    (hnames : ∀ reference ∈ c.references, s.Mentions reference.name →
      IsTypeName reference.type ∧ reference.type ≠ "any")
    (schema : String) (strict : Bool) :
    ∃ q o later, queryOf (.ofResolved schema strict t) = .ok q ∧
      r.narrowStrict q = .ok (r.narrow q) ∧
      (r.narrow q).first? = some (t.overload, o) ∧
      o.signature = t.signature ∧
      (r.narrow q).signatures = t.signature :: later := by
  have hresolves := Registry.resolveStatement_eq_ok_iff.mp hresolve
  have hreferences := (Config.holds_of_toRegistry hmade).references
  rw [← hreferences] at hnames
  have hleft : t.left.type.IsWritable := by
    apply hresolves.left.isWritable
    intro reference hreference hoperand
    exact hnames reference hreference (.inl hoperand)
  have hright := Registry.isWritable_of_rel hresolves.right
    fun reference hreference hoperand =>
      hnames reference hreference (.inr hoperand)
  obtain ⟨hstrict, o, hfirst, hsignature⟩ := hresolves.first?_narrow
  obtain ⟨later, hlater⟩ := View.exists_signatures_eq hfirst
  rw [hsignature] at hlater
  exact ⟨_, o, later, queryOf_ofResolved hleft hright schema strict, hstrict,
    hfirst, hsignature, hlater⟩

/-- The first overload is for a left operand that is no array. -/
theorem Command.narrow_first_resolved_array :
    let binary : Signature := ⟨TypeToken.universal.asArray, "IN", some .universal⟩
    let c : Config :=
      ⟨["keyword"], [⟨"tags", "keyword", true⟩, ⟨"kind", "keyword", false⟩],
        [⟨⟨.named "keyword", true, false⟩, "IN", some .universal⟩, binary]⟩
    let s : Statement :=
      ⟨.reference "tags", "IN", some (.reference "kind")⟩
    ∃ r t q o, c.toRegistry = .ok r ∧ r.resolveStatement s = .ok t ∧
      queryOf (.ofResolved "schema.json" true t) = .ok q ∧
      (r.narrow q).first? = some (1, o) ∧ o.signature = binary := by
  intro binary c s
  obtain ⟨r, hmade⟩ : ∃ r, c.toRegistry = .ok r := ⟨_, rfl⟩
  obtain ⟨t, hresolve, hplace, hsignature⟩ : ∃ t,
      r.resolveStatement s = .ok t ∧ t.overload = 1 ∧
        t.signature = binary := by
    obtain rfl := Except.ok.inj hmade
    exact ⟨_, rfl, rfl, rfl⟩
  have hnames : ∀ reference ∈ c.references, s.Mentions reference.name →
      IsTypeName reference.type ∧ reference.type ≠ "any" := by
    have hall : ∀ reference ∈ c.references,
        IsTypeName reference.type ∧ reference.type ≠ "any" := by
      decide +kernel
    intro reference hreference _
    exact hall reference hreference
  obtain ⟨q, o, later, hquery, hstrict, hfirst, ho, hlater⟩ :=
    narrow_first_resolved hmade hresolve hnames "schema.json" true
  rw [hplace] at hfirst
  exact ⟨r, t, q, o, hmade, hresolve, hquery, hfirst, ho.trans hsignature⟩

/-- A type with a space in its name cannot be asked for.  The text for a type
called `any` asks for every type, and finds an overload that comes before. -/
theorem Command.narrow_misses_resolved :
    let c : Config :=
      ⟨["a b", "any"], [⟨"x", "a b", false⟩, ⟨"y", "any", false⟩],
        [⟨.named "other", "IS", none⟩, ⟨.universal, "IS", none⟩]⟩
    ∃ r spaced reserved q, c.toRegistry = .ok r ∧
      r.resolveStatement ⟨.reference "x", "IS", none⟩ = .ok spaced ∧
      queryOf (.ofResolved "schema.json" false spaced) =
        .error (.invalidTypeToken "$a b") ∧
      r.resolveStatement ⟨.reference "y", "IS", none⟩ = .ok reserved ∧
      reserved.overload = 1 ∧
      queryOf (.ofResolved "schema.json" false reserved) = .ok q ∧
      ((r.narrow q).first?).map Prod.fst = some 0 := by
  intro c
  have hspaced : queryOf (.ofResolved "schema.json" false
      ⟨⟨.reference "x", ⟨.named "a b", true, false⟩⟩, "IS", none, 1,
        ⟨.universal, "IS", none⟩⟩) = .error (.invalidTypeToken "$a b") := by
    decide +kernel
  have hreserved : queryOf (.ofResolved "schema.json" false
      ⟨⟨.reference "y", ⟨.named "any", true, false⟩⟩, "IS", none, 1,
        ⟨.universal, "IS", none⟩⟩) = .ok (.exactly .universal "IS" none) := by
    decide +kernel
  exact ⟨_, _, _, _, rfl, rfl, hspaced, rfl, rfl, hreserved, rfl⟩

end FilterLanguage
