import FilterLanguage.Schema.View
import Mathlib.Data.Nat.Find

/-!
# Matching

When two tokens match, when a signature fits the types of a statement, and what
narrowing finds first.  The wildcard for a unary signature plays no part for the
types that operands have, because these are never wildcards.
-/

namespace FilterLanguage

section Optional

variable {α β γ : Type} {R : α → β → Prop} {x : Option α} {y : Option β}

theorem isSome_eq_of_rel (hrel : Option.Rel R x y) : x.isSome = y.isSome := by
  cases hrel <;> rfl

theorem rel_mono {S : α → β → Prop} (hrel : Option.Rel R x y)
    (hRS : ∀ a b, R a b → S a b) : Option.Rel S x y := by
  cases hrel with
  | none => exact .none
  | some hab => exact .some (hRS _ _ hab)

theorem rel_trans {S : β → γ → Prop} {T : α → γ → Prop} {z : Option γ}
    (hxy : Option.Rel R x y) (hyz : Option.Rel S y z)
    (hchain : ∀ a b c, R a b → S b c → T a c) : Option.Rel T x z := by
  cases hxy with
  | none =>
    cases hyz with
    | none => exact .none
  | some hab =>
    cases hyz with
    | some hbc => exact .some (hchain _ _ _ hab hbc)

end Optional

/-- One of the tokens is `$any`, or they have the same marks and the same base,
where `any` goes with every base. -/
def TypeToken.Matches (s t : TypeToken) : Prop :=
  s = universal ∨ t = universal ∨
    (s.reference = t.reference ∧ s.array = t.array ∧
      (s.base = t.base ∨ s.base = .any ∨ t.base = .any))

theorem TypeToken.admits_iff_matches {s t : TypeToken} :
    s.admits t = true ↔ s.Matches t := by
  rcases s with ⟨base, reference, array⟩
  rcases t with ⟨base', reference', array'⟩
  cases base with
  | any =>
    cases base' with
    | any =>
      cases reference <;> cases array <;> cases reference' <;> cases array' <;>
        simp [admits, pattern, bothMarked, Matches, universal, any, asReference]
    | named name' =>
      cases reference <;> cases array <;> cases reference' <;> cases array' <;>
        simp [admits, pattern, bothMarked, Matches, universal, any, asReference]
  | named name =>
    cases base' with
    | any =>
      cases reference <;> cases array <;> cases reference' <;> cases array' <;>
        simp [admits, pattern, bothMarked, Matches, universal, any, asReference]
    | named name' =>
      simp only [admits, pattern, Matches, universal, any, asReference,
        beq_iff_eq, mk.injEq, BaseType.named.injEq, reduceCtorEq, false_and,
        false_or, or_false]
      constructor
      · rintro ⟨rfl, rfl, rfl⟩
        exact ⟨rfl, rfl, rfl⟩
      · rintro ⟨rfl, rfl, rfl⟩
        exact ⟨rfl, rfl, rfl⟩

/-- The signature takes operands of these types: it has the name and the arity,
and its tokens match the types. -/
structure Signature.Fits (signature : Signature) (left : TypeToken)
    (operator : String) (right : Option TypeToken) : Prop where
  left : left.Matches signature.left
  operator : operator = signature.operator
  right : Option.Rel TypeToken.Matches right signature.right

theorem RightQuery.accepts_ofOperand_iff {right found : Option TypeToken}
    (hright : ∀ token ∈ right, token ≠ TypeToken.universal) :
    (ofOperand right).accepts found = true ↔
      Option.Rel TypeToken.Matches right found := by
  cases right with
  | none => cases found <;> simp [ofOperand, accepts]
  | some token =>
    have hspecial : token ≠ TypeToken.universal := hright token rfl
    cases found with
    | none => simp [ofOperand, accepts, hspecial]
    | some token' =>
      simp [ofOperand, accepts, TypeToken.admits_iff_matches]

theorem Query.accepts_exactly_iff {left : TypeToken} {operator : String}
    {right : Option TypeToken} {signature : Signature}
    (hright : ∀ token ∈ right, token ≠ TypeToken.universal) :
    (exactly left operator right).accepts signature = true ↔
      signature.Fits left operator right := by
  have hparts : (exactly left operator right).accepts signature = true ↔
      left.Matches signature.left ∧ operator = signature.operator ∧
        Option.Rel TypeToken.Matches right signature.right := by
    simp [exactly, accepts, TypeToken.admits_iff_matches, and_assoc,
      RightQuery.accepts_ofOperand_iff hright]
  rw [hparts]
  constructor
  · rintro ⟨hleft, hoperator, hrest⟩
    exact ⟨hleft, hoperator, hrest⟩
  · intro hfits
    exact ⟨hfits.left, hfits.operator, hfits.right⟩

/-! ## The first overload -/

namespace Registry

variable {σ : Type}

/-- No overload before this one is accepted. -/
structure IsFirst (r : Registry σ) (accepts : Signature → Prop) (place : Nat)
    (o : Overload σ) : Prop where
  found : r.overloads[place]? = some o
  accepted : accepts o.signature
  least : ∀ i < place, ∀ other, r.overloads[i]? = some other →
    ¬ accepts other.signature

theorem exists_isFirst_or (r : Registry σ) (accepts : Signature → Prop) :
    (∃ place o, r.IsFirst accepts place o) ∨
      ∀ o ∈ r.overloads, ¬ accepts o.signature := by
  classical
  by_cases hsome : ∃ (place : Nat) (o : Overload σ),
      r.overloads[place]? = some o ∧ accepts o.signature
  · obtain ⟨o, hfound, haccepted⟩ := Nat.find_spec hsome
    refine .inl ⟨Nat.find hsome, o, hfound, haccepted, ?_⟩
    intro i hi other hother hotherAccepted
    exact Nat.find_min hsome hi ⟨other, hother, hotherAccepted⟩
  · right
    intro o ho haccepted
    obtain ⟨place, hfound⟩ := List.mem_iff_getElem?.mp ho
    exact hsome ⟨place, o, hfound, haccepted⟩

end Registry

namespace View

variable {σ : Type} {r : Registry σ} {q : Query}

theorem selects_iff {i : Nat} :
    selects r q i = true ↔
      ∃ o, r.overloads[i]? = some o ∧ q.accepts o.signature = true := by
  unfold selects
  cases r.overloads[i]? <;> simp

theorem signatures_whole (r : Registry σ) :
    (whole r).signatures = r.signatures := by
  have hall : ∀ os : List (Overload σ),
      (List.range os.length).filterMap (fun i => os[i]?) = os := by
    intro os
    induction os with
    | nil => rfl
    | cons o os ih =>
      rw [List.length_cons, List.range_succ_eq_map, List.filterMap_cons,
        List.filterMap_map]
      simpa [Function.comp_def] using ih
  exact congrArg (List.map Overload.signature) (hall r.overloads)

end View

namespace Registry

variable {σ : Type} {r : Registry σ} {q : Query}

theorem indices_narrow_of_isFirst {place : Nat} {o : Overload σ}
    (hfirst : r.IsFirst (fun signature => q.accepts signature = true) place o) :
    ∃ later, (r.narrow q).indices = place :: later := by
  have hbound : place < r.overloads.length :=
    (List.getElem?_eq_some_iff.mp hfirst.found).1
  have hselected : View.selects r q place = true :=
    View.selects_iff.mpr ⟨o, hfirst.found, hfirst.accepted⟩
  have hbefore : ∀ i < place, (!View.selects r q i) = true := by
    intro i hi
    have hnot : ¬ View.selects r q i = true := by
      intro hselects
      obtain ⟨other, hother, haccepted⟩ := View.selects_iff.mp hselects
      exact hfirst.least i hi other hother haccepted
    simpa using hnot
  have hhead : (r.narrow q).indices.head? = some place := by
    rw [narrow, View.narrow, View.whole, List.head?_filter,
      List.find?_range_eq_some]
    exact ⟨hselected, List.mem_range.mpr hbound, hbefore⟩
  cases hindices : (r.narrow q).indices with
  | nil => simp [hindices] at hhead
  | cons i later =>
    obtain rfl : i = place := by simpa [hindices] using hhead
    exact ⟨later, rfl⟩

theorem narrowStrict_of_isFirst {place : Nat} {o : Overload σ}
    (hfirst : r.IsFirst (fun signature => q.accepts signature = true) place o) :
    ∃ view, r.narrowStrict q = .ok view ∧ view.first? = some (place, o) := by
  obtain ⟨later, hindices⟩ := indices_narrow_of_isFirst hfirst
  refine ⟨r.narrow q, ?_, ?_⟩
  · have hfull : ¬ (r.narrow q).isEmpty = true := by
      simp [View.isEmpty, hindices]
    exact if_neg hfull
  · have hfound : (r.narrow q).registry.overloads[place]? = some o :=
      hfirst.found
    simp only [View.first?, hindices, hfound, Option.map_some]

theorem narrowStrict_of_forall_not
    (hnone : ∀ o ∈ r.overloads, ¬ q.accepts o.signature = true) :
    r.narrowStrict q = .error (.noMatchingOverload q r.signatures) := by
  have hindices : (r.narrow q).indices = [] := by
    apply List.filter_eq_nil_iff.mpr
    intro i hi hselects
    obtain ⟨o, hfound, haccepted⟩ := View.selects_iff.mp hselects
    exact hnone o (List.mem_of_getElem? hfound) haccepted
  have hempty : (r.narrow q).isEmpty = true := by
    simp [View.isEmpty, hindices]
  rw [← View.signatures_whole r]
  exact if_pos hempty

end Registry

end FilterLanguage
