import FilterLanguage.Proofs.Schema.Narrowing

/-!
# Generality

Tokens are compared by how much they match, with `$any` above all others and the
other three wildcards above the tokens with their marks.  Matching itself is not
transitive, but it grows along this comparison.  A query that asks for more
specific things than another one therefore keeps no overload that the other does
not keep.
-/

namespace FilterLanguage

/-- The first token is the second one or stands under it as a wildcard. -/
def TypeToken.AtMostAsGeneral (s t : TypeToken) : Prop :=
  t = universal ∨ s = t ∨
    t ∈ [any, any.asArray, universal.asArray] ∧
      s.reference = t.reference ∧ s.array = t.array

instance (s t : TypeToken) : Decidable (s.AtMostAsGeneral t) :=
  inferInstanceAs (Decidable (_ ∨ _ ∨ _))

/-- The right operand is asked for at least as specifically. -/
def RightQuery.Refines (finer coarser : RightQuery) : Prop :=
  coarser = .unconstrained ∨ coarser = .is .universal ∨ coarser = finer ∨
    ∃ s t, finer = .is s ∧ coarser = .is t ∧ s.AtMostAsGeneral t

/-- Every side of the second query is open or is asked for at least as
specifically by the first one. -/
structure Query.Refines (finer coarser : Query) : Prop where
  left : coarser.left = none ∨ coarser.left = some .universal ∨
    ∃ s ∈ finer.left, ∃ t ∈ coarser.left, s.AtMostAsGeneral t
  operator : coarser.operator = none ∨ coarser.operator = finer.operator
  right : finer.right.Refines coarser.right

namespace TypeToken

theorem universal_matches (t : TypeToken) : universal.Matches t := .inl rfl

theorem mem_marked_wildcards {t : TypeToken}
    (ht : t ∈ [any, any.asArray, universal.asArray]) :
    t.base = .any ∧ t ≠ universal := by
  simp only [List.mem_cons, List.not_mem_nil, or_false] at ht
  rcases ht with rfl | rfl | rfl <;> exact ⟨rfl, by decide⟩

theorem AtMostAsGeneral.refl (t : TypeToken) : t.AtMostAsGeneral t :=
  .inr (.inl rfl)

/-- Nothing else is above `$any`. -/
theorem AtMostAsGeneral.eq_universal {t : TypeToken}
    (hgeneral : universal.AtMostAsGeneral t) : t = universal := by
  rcases hgeneral with rfl | rfl | ⟨hwildcard, hreference, harray⟩
  · rfl
  · rfl
  · obtain ⟨hbase, hne⟩ := mem_marked_wildcards hwildcard
    rcases t with ⟨base, reference, array⟩
    obtain rfl : base = .any := hbase
    obtain rfl : true = reference := hreference
    obtain rfl : false = array := harray
    exact (hne rfl).elim

/-- What a token matches, every more general token matches. -/
theorem AtMostAsGeneral.matches_of {s t u : TypeToken}
    (hgeneral : s.AtMostAsGeneral t) (hmatches : s.Matches u) : t.Matches u := by
  rcases hmatches with rfl | rfl | ⟨hreference, harray, hbase⟩
  · rw [hgeneral.eq_universal]
    exact universal_matches u
  · exact .inr (.inl rfl)
  · rcases hgeneral with rfl | rfl | ⟨hwildcard, hreference', harray'⟩
    · exact universal_matches u
    · exact .inr (.inr ⟨hreference, harray, hbase⟩)
    · have hany := (mem_marked_wildcards hwildcard).1
      exact .inr (.inr ⟨hreference'.symm.trans hreference,
        harray'.symm.trans harray, .inr (.inl hany)⟩)

theorem AtMostAsGeneral.admits_of {s t u : TypeToken}
    (hgeneral : s.AtMostAsGeneral t) (hadmits : s.admits u = true) :
    t.admits u = true :=
  admits_iff_matches.mpr
    (hgeneral.matches_of (admits_iff_matches.mp hadmits))

theorem universal_admits (t : TypeToken) : universal.admits t = true :=
  admits_iff_matches.mpr (universal_matches t)

end TypeToken

/-! ## Single signatures -/

theorem RightQuery.universal_accepts (right : Option TypeToken) :
    (RightQuery.is .universal).accepts right = true := by
  cases right with
  | none => rfl
  | some token => exact TypeToken.universal_admits token

/-- A unary signature is found by `$any` alone, and nothing else is above it. -/
theorem RightQuery.Refines.accepts_of {finer coarser : RightQuery}
    {right : Option TypeToken} (hrefines : finer.Refines coarser)
    (haccepts : finer.accepts right = true) : coarser.accepts right = true := by
  rcases hrefines with rfl | rfl | rfl | ⟨s, t, rfl, rfl, hgeneral⟩
  · rfl
  · exact universal_accepts right
  · exact haccepts
  · cases right with
    | none =>
      obtain rfl : s = .universal := by simpa [accepts] using haccepts
      rw [hgeneral.eq_universal]
      rfl
    | some token => exact hgeneral.admits_of haccepts

theorem Query.accepts_iff {q : Query} {signature : Signature} :
    q.accepts signature = true ↔
      (∀ t ∈ q.left, t.admits signature.left = true) ∧
        (∀ name ∈ q.operator, name = signature.operator) ∧
        q.right.accepts signature.right = true := by
  rcases q with ⟨left, operator, right⟩
  cases left <;> cases operator <;> simp [accepts, and_assoc]

theorem Query.Refines.accepts_of {finer coarser : Query}
    {signature : Signature} (hrefines : finer.Refines coarser)
    (haccepts : finer.accepts signature = true) :
    coarser.accepts signature = true := by
  obtain ⟨hleft, hoperator, hright⟩ := Query.accepts_iff.mp haccepts
  refine Query.accepts_iff.mpr ⟨?_, ?_, hrefines.right.accepts_of hright⟩
  · intro t ht
    rcases hrefines.left with hopen | hopen | ⟨s, hs, t', ht', hgeneral⟩
    · rw [hopen] at ht
      cases ht
    · rw [hopen] at ht
      obtain rfl := Option.some.inj ht
      exact TypeToken.universal_admits _
    · obtain rfl : t' = t := Option.mem_unique ht' ht
      exact hgeneral.admits_of (hleft s hs)
  · intro name hname
    rcases hrefines.operator with hopen | hsame
    · rw [hopen] at hname
      cases hname
    · rw [hsame] at hname
      exact hoperator name hname

theorem Query.Refines.refl (q : Query) : q.Refines q := by
  refine ⟨?_, .inr rfl, .inr (.inr (.inl rfl))⟩
  cases hleft : q.left with
  | none => exact .inl rfl
  | some t => exact .inr (.inr ⟨t, rfl, t, rfl, .refl t⟩)

/-- Queries that refine each other accept the same signatures. -/
theorem Query.accepts_eq_of_refines {q q' : Query} (hrefines : q.Refines q')
    (hrefines' : q'.Refines q) (signature : Signature) :
    q.accepts signature = q'.accepts signature :=
  Bool.eq_iff_iff.mpr ⟨hrefines.accepts_of, hrefines'.accepts_of⟩

/-! ## Views -/

namespace View

variable {σ : Type} {v : View σ} {q q' : Query}

theorem narrow_sublist_of_refines (v : View σ) (hrefines : q'.Refines q) :
    (v.narrow q').indices.Sublist (v.narrow q).indices := by
  apply List.monotone_filter_right
  intro i hselects
  obtain ⟨o, hfound, haccepts⟩ := selects_iff.mp hselects
  exact selects_iff.mpr ⟨o, hfound, hrefines.accepts_of haccepts⟩

theorem narrow_eq_of_refines (v : View σ) (hrefines : q.Refines q')
    (hrefines' : q'.Refines q) : v.narrow q = v.narrow q' := by
  have hselects : selects v.registry q = selects v.registry q' := by
    funext i
    unfold selects
    cases v.registry.overloads[i]? with
    | none => rfl
    | some o => exact Query.accepts_eq_of_refines hrefines hrefines' o.signature
  rw [narrow, narrow, hselects]

end View

namespace Registry

variable {σ : Type}

/-- A more specific query keeps no other overloads, in any registry.  To ask for
`$any` is to leave that side of a query open, for unary overloads too. -/
theorem narrow_monotone (r : Registry σ) :
    (∀ q q' : Query, q'.Refines q →
      ∀ i ∈ (r.narrow q').indices, i ∈ (r.narrow q).indices) ∧
    (∀ q : Query, r.narrow { q with left := some .universal } =
      r.narrow { q with left := none }) ∧
    (∀ q : Query, r.narrow { q with right := .is .universal } =
      r.narrow { q with right := .unconstrained }) := by
  refine ⟨?_, ?_, ?_⟩
  · intro q q' hrefines i hi
    exact ((View.whole r).narrow_sublist_of_refines hrefines).subset hi
  · intro q
    apply View.narrow_eq_of_refines
    · exact ⟨.inl rfl, .inr rfl, .inr (.inr (.inl rfl))⟩
    · exact ⟨.inr (.inl rfl), .inr rfl, .inr (.inr (.inl rfl))⟩
  · intro q
    apply View.narrow_eq_of_refines
    · exact ⟨(Query.Refines.refl q).left, .inr rfl, .inl rfl⟩
    · exact ⟨(Query.Refines.refl q).left, .inr rfl, .inr (.inl rfl)⟩

/-- The finer query names an array type, the coarser one asks for any array
reference on the right.  The unary overload is kept by neither. -/
theorem narrow_monotone_wildcard :
    let texts : TypeToken := ⟨.named "text", true, true⟩
    let arrays : TypeToken := ⟨.any, true, true⟩
    let r : Registry Unit :=
      ⟨[], [], TypeToken.wildcards,
        [⟨⟨.universal, "has", none⟩, none⟩,
          ⟨⟨.universal, "has", some ⟨.named "number", true, true⟩⟩, none⟩,
          ⟨⟨.any, "has", some arrays⟩, none⟩,
          ⟨⟨.universal, "is", some texts⟩, none⟩], ()⟩
    let finer : Query := ⟨some .any, some "has", .is texts⟩
    let coarser : Query := ⟨some .universal, none, .is arrays⟩
    finer.Refines coarser ∧ (r.narrow finer).indices = [2] ∧
      (r.narrow coarser).indices = [1, 2, 3] ∧
      ∀ i ∈ (r.narrow finer).indices, i ∈ (r.narrow coarser).indices := by
  intro texts arrays r finer coarser
  have hrefines : finer.Refines coarser :=
    ⟨.inr (.inl rfl), .inl rfl,
      .inr (.inr (.inr ⟨texts, arrays, rfl, rfl, by decide⟩))⟩
  exact ⟨hrefines, rfl, rfl, (narrow_monotone r).1 coarser finer hrefines⟩

end Registry

end FilterLanguage
