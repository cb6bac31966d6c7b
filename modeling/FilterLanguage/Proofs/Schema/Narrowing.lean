import FilterLanguage.Proofs.Schema.Matching
import Mathlib.Data.List.Induction
import Mathlib.Data.List.Sort

/-!
# Repeated narrowing

Narrowing again and again keeps the overloads that all the queries accept, in
the order of registration.  Such a view is determined by the set of the queries:
neither their order nor their number matters, and whether a step was strict does
not matter either, as long as it succeeded.
-/

namespace FilterLanguage

variable {σ : Type} {r : Registry σ} {v v' : View σ} {q : Query}
  {qs qs' : List Query}

/-- The places of the overloads that all the queries accept, in the order of
registration. -/
structure View.IsIntersection (v : View σ) (r : Registry σ) (qs : List Query) :
    Prop where
  registry : v.registry = r
  increasing : v.indices.Pairwise (· < ·)
  mem_iff : ∀ i, i ∈ v.indices ↔ ∃ o, r.overloads[i]? = some o ∧
    ∀ q ∈ qs, q.accepts o.signature = true

/-- Strict narrowing gives the narrowed view unless that is empty.  Then it
tells the candidates. -/
structure NarrowsStrictly (narrow : Query → View σ)
    (narrowStrict : Query → Except Error (View σ))
    (candidates : List Signature) : Prop where
  ok : ∀ q, (narrow q).indices ≠ [] → narrowStrict q = .ok (narrow q)
  error : ∀ q, (narrow q).indices = [] →
    narrowStrict q = .error (.noMatchingOverload q candidates)

namespace Registry

def narrowAll (r : Registry σ) (qs : List Query) : View σ :=
  qs.foldl View.narrow (View.whole r)

/-- A chain of narrowings, some of them strict, with its queries. -/
inductive Narrowing (r : Registry σ) : List Query → View σ → Prop
  | whole : Narrowing r [] (View.whole r)
  | narrow {qs : List Query} {v : View σ} (q : Query)
      (hchain : Narrowing r qs v) : Narrowing r (qs ++ [q]) (v.narrow q)
  | strict {qs : List Query} {v v' : View σ} {q : Query}
      (hchain : Narrowing r qs v) (hstrict : v.narrowStrict q = .ok v') :
      Narrowing r (qs ++ [q]) v'

end Registry

/-! ## Single steps -/

theorem View.narrowsStrictly (v : View σ) :
    NarrowsStrictly v.narrow v.narrowStrict v.signatures := by
  constructor
  · intro q hsome
    have hfull : ¬ (v.narrow q).isEmpty = true := by
      rwa [isEmpty, List.isEmpty_iff]
    exact if_neg hfull
  · intro q hnone
    have hempty : (v.narrow q).isEmpty = true := by
      rwa [isEmpty, List.isEmpty_iff]
    exact if_pos hempty

theorem Registry.narrowsStrictly (r : Registry σ) :
    NarrowsStrictly r.narrow r.narrowStrict r.signatures := by
  rw [← View.signatures_whole r]
  exact (View.whole r).narrowsStrictly

theorem View.eq_narrow_of_narrowStrict (hstrict : v.narrowStrict q = .ok v') :
    v' = v.narrow q := by
  by_cases hempty : (v.narrow q).indices = []
  · rw [v.narrowsStrictly.error q hempty] at hstrict
    cases hstrict
  · rw [v.narrowsStrictly.ok q hempty] at hstrict
    exact (Except.ok.inj hstrict).symm

/-- Places without an overload have no signature, before and after. -/
theorem View.signatures_narrow (v : View σ) (q : Query) :
    (v.narrow q).signatures = v.signatures.filter q.accepts := by
  rcases v with ⟨r, indices⟩
  simp only [narrow, signatures, overloads]
  induction indices with
  | nil => rfl
  | cons i later ih =>
    cases hfound : r.overloads[i]? with
    | none =>
      have hselects : selects r q i = false := by simp [selects, hfound]
      simpa [hselects, hfound] using ih
    | some o =>
      have hselects : selects r q i = q.accepts o.signature := by
        simp [selects, hfound]
      by_cases haccepts : q.accepts o.signature = true
      · simpa [hselects, haccepts, hfound] using ih
      · simpa [hselects, haccepts, hfound] using ih

/-! ## Intersections -/

namespace View.IsIntersection

theorem whole (r : Registry σ) : (View.whole r).IsIntersection r [] := by
  refine ⟨rfl, List.pairwise_lt_range, ?_⟩
  intro i
  have hrange : i ∈ (View.whole r).indices ↔ i < r.overloads.length :=
    List.mem_range
  rw [hrange]
  constructor
  · intro hi
    exact ⟨_, List.getElem?_eq_getElem hi, by simp⟩
  · rintro ⟨o, hfound, -⟩
    exact (List.getElem?_eq_some_iff.mp hfound).1

theorem narrow (hv : v.IsIntersection r qs) (q : Query) :
    (v.narrow q).IsIntersection r (qs ++ [q]) := by
  refine ⟨hv.registry, hv.increasing.filter _, ?_⟩
  intro i
  have hstep : i ∈ (v.narrow q).indices ↔
      i ∈ v.indices ∧ selects r q i = true := by
    rw [View.narrow, List.mem_filter, hv.registry]
  rw [hstep, hv.mem_iff, selects_iff]
  constructor
  · rintro ⟨⟨o, hfound, hall⟩, o', hfound', haccepts⟩
    obtain rfl : o = o' := Option.some.inj (hfound.symm.trans hfound')
    refine ⟨o, hfound, ?_⟩
    rw [List.forall_mem_append, List.forall_mem_singleton]
    exact ⟨hall, haccepts⟩
  · rintro ⟨o, hfound, hall⟩
    rw [List.forall_mem_append, List.forall_mem_singleton] at hall
    exact ⟨⟨o, hfound, hall.1⟩, o, hfound, hall.2⟩

theorem lt_length (hv : v.IsIntersection r qs) {i : Nat} (hi : i ∈ v.indices) :
    i < r.overloads.length := by
  obtain ⟨o, hfound, -⟩ := (hv.mem_iff i).mp hi
  exact (List.getElem?_eq_some_iff.mp hfound).1

/-- A view is determined by the set of its queries. -/
theorem unique (hv : v.IsIntersection r qs) (hv' : v'.IsIntersection r qs')
    (hsame : ∀ q, q ∈ qs ↔ q ∈ qs') : v = v' := by
  have hindices : v.indices = v'.indices := by
    apply hv.increasing.eq_of_mem_iff hv'.increasing
    intro i
    simp only [hv.mem_iff, hv'.mem_iff, hsame]
  have hregistry : v.registry = v'.registry :=
    hv.registry.trans hv'.registry.symm
  rcases v with ⟨registry, indices⟩
  rcases v' with ⟨registry', indices'⟩
  obtain rfl : registry = registry' := hregistry
  obtain rfl : indices = indices' := hindices
  rfl

theorem first?_eq_some_iff (hv : v.IsIntersection r qs) {i : Nat}
    {o : Overload σ} :
    v.first? = some (i, o) ↔
      r.overloads[i]? = some o ∧ i ∈ v.indices ∧ ∀ j ∈ v.indices, i ≤ j := by
  have hincreasing := hv.increasing
  rw [first?, hv.registry]
  cases hindices : v.indices with
  | nil => simp
  | cons head later =>
    rw [hindices] at hincreasing
    have hleast : ∀ j ∈ later, head < j := (List.pairwise_cons.mp hincreasing).1
    simp only [Option.map_eq_some_iff, Prod.mk.injEq]
    constructor
    · rintro ⟨o', hfound, rfl, rfl⟩
      refine ⟨hfound, List.mem_cons_self, ?_⟩
      intro j hj
      rcases List.mem_cons.mp hj with rfl | hj
      · exact Nat.le_refl _
      · exact Nat.le_of_lt (hleast j hj)
    · rintro ⟨hfound, hi, hmin⟩
      have hle : i ≤ head := hmin head List.mem_cons_self
      have heq : head = i := by
        rcases List.mem_cons.mp hi with rfl | hi
        · rfl
        · exact (Nat.not_lt.mpr hle (hleast i hi)).elim
      subst heq
      exact ⟨o, hfound, rfl, rfl⟩

theorem first?_eq_none_iff (hv : v.IsIntersection r qs) :
    v.first? = none ↔ v.indices = [] := by
  have hbound : ∀ i ∈ v.indices, i < r.overloads.length := fun _ => hv.lt_length
  rw [first?, hv.registry]
  cases hindices : v.indices with
  | nil => simp
  | cons i later =>
    have hi : i < r.overloads.length := hbound i (by simp [hindices])
    simp [List.getElem?_eq_getElem hi]

end View.IsIntersection

/-! ## Chains -/

namespace Registry

theorem narrowAll_append_singleton (r : Registry σ) (qs : List Query)
    (q : Query) : r.narrowAll (qs ++ [q]) = (r.narrowAll qs).narrow q :=
  List.foldl_append

theorem narrowing_iff : r.Narrowing qs v ↔ v = r.narrowAll qs := by
  constructor
  · intro hchain
    induction hchain with
    | whole => rfl
    | narrow q hchain ih => rw [narrowAll_append_singleton, ih]
    | strict hchain hstrict ih =>
      rw [View.eq_narrow_of_narrowStrict hstrict, narrowAll_append_singleton, ih]
  · rintro rfl
    induction qs using List.reverseRecOn with
    | nil => exact .whole
    | append_singleton qs q ih =>
      rw [narrowAll_append_singleton]
      exact .narrow q ih

theorem isIntersection_narrowAll (r : Registry σ) (qs : List Query) :
    (r.narrowAll qs).IsIntersection r qs := by
  induction qs using List.reverseRecOn with
  | nil => exact .whole r
  | append_singleton qs q ih =>
    rw [narrowAll_append_singleton]
    exact ih.narrow q

theorem signatures_narrowAll (r : Registry σ) (qs : List Query) :
    (r.narrowAll qs).signatures =
      r.signatures.filter fun signature => qs.all (·.accepts signature) := by
  induction qs using List.reverseRecOn with
  | nil =>
    have hwhole : (r.narrowAll []).signatures = r.signatures :=
      View.signatures_whole r
    simpa using hwhole
  | append_singleton qs q ih =>
    rw [narrowAll_append_singleton, View.signatures_narrow, ih,
      List.filter_filter]
    simp [List.all_append, Bool.and_comm]

/-- However a registry is narrowed, the view holds the overloads that all the
queries accept, and their signatures, in the order of registration; the first
one has the least place.  Strict narrowing differs only where nothing is left,
and tells the signatures of what it narrows. -/
theorem narrowAll_eq_intersection (r : Registry σ) (qs : List Query) :
    let v := r.narrowAll qs
    v.IsIntersection r qs ∧
    (∀ i ∈ v.indices, i < r.overloads.length) ∧
    (∀ v', r.Narrowing qs v' ↔ v' = v) ∧
    (∀ qs', (∀ q, q ∈ qs' ↔ q ∈ qs) → r.narrowAll qs' = v) ∧
    (∀ i o, v.first? = some (i, o) ↔
      r.overloads[i]? = some o ∧ i ∈ v.indices ∧ ∀ j ∈ v.indices, i ≤ j) ∧
    (v.first? = none ↔ v.indices = []) ∧
    v.signatures =
      r.signatures.filter (fun signature => qs.all (·.accepts signature)) ∧
    NarrowsStrictly v.narrow v.narrowStrict v.signatures ∧
    NarrowsStrictly r.narrow r.narrowStrict r.signatures := by
  intro v
  have hv : v.IsIntersection r qs := r.isIntersection_narrowAll qs
  refine ⟨hv, fun _ => hv.lt_length, fun _ => narrowing_iff, ?_,
    fun _ _ => hv.first?_eq_some_iff, hv.first?_eq_none_iff,
    r.signatures_narrowAll qs, v.narrowsStrictly, r.narrowsStrictly⟩
  intro qs' hsame
  exact (r.isIntersection_narrowAll qs').unique hv hsame

/-- Two queries in either order, one of them repeated.  Nothing unary is left,
and the error tells the one overload that was, of the three in the registry. -/
theorem narrowAll_repeated :
    let unary : Signature := ⟨.universal, "has", none⟩
    let binary : Signature := ⟨.universal, "has", some .universal⟩
    let other : Signature := ⟨.universal, "is", some .universal⟩
    let r : Registry Unit :=
      ⟨[], [], TypeToken.wildcards,
        [⟨unary, none⟩, ⟨binary, none⟩, ⟨other, none⟩], ()⟩
    let named : Query := ⟨none, some "has", .unconstrained⟩
    let right : Query := ⟨none, none, .is (.named "t")⟩
    let absent : Query := ⟨none, none, .unary⟩
    (r.narrowAll [right, named, right]).indices = [1] ∧
      r.narrowAll [named, right] = r.narrowAll [right, named, right] ∧
      (r.narrowAll [named, right]).narrowStrict absent =
        .error (.noMatchingOverload absent [binary]) := by
  intro unary binary other r named right absent
  obtain ⟨-, -, -, hsame, -, -, -, -, -⟩ :=
    narrowAll_eq_intersection r [right, named, right]
  obtain ⟨-, -, -, -, -, -, -, hstrict, -⟩ :=
    narrowAll_eq_intersection r [named, right]
  have hqueries : ∀ q, q ∈ [named, right] ↔ q ∈ [right, named, right] := by
    intro q
    simp only [List.mem_cons, List.not_mem_nil, or_false]
    tauto
  exact ⟨rfl, hsame _ hqueries, hstrict.error absent rfl⟩

end Registry

end FilterLanguage
