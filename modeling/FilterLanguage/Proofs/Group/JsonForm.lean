import FilterLanguage.Group.Json
import FilterLanguage.Proofs.Json.Compact

/-!
# The JSON form of groups

Operands tell their kind, a right operand is there or left out, and the
elements of a group are objects, strings or arrays.  So the JSON value of a
group determines the group, and with finite numbers its compact text does.
-/

namespace FilterLanguage

/-! ## Values determine what they were made from -/

theorem Literal.toJson_injective : Function.Injective Literal.toJson := by
  intro x y hjson
  cases x <;> cases y <;> simp_all [toJson]

theorem Operand.toJson_injective : Function.Injective Operand.toJson := by
  intro x y hjson
  cases x with
  | literal value =>
    cases y with
    | literal value' =>
      have hvalue : value.toJson = value'.toJson := by
        simpa [toJson] using hjson
      rw [Literal.toJson_injective hvalue]
    | reference name => simp [toJson] at hjson
  | reference name =>
    cases y with
    | literal value => simp [toJson] at hjson
    | reference name' => simpa [toJson] using hjson

theorem Statement.toJson_injective : Function.Injective Statement.toJson := by
  rintro ⟨left, operator, right⟩ ⟨left', operator', right'⟩ hjson
  simp only [toJson, Json.object.injEq, List.cons_append, List.nil_append,
    List.cons.injEq, Prod.mk.injEq, Json.string.injEq, true_and] at hjson
  obtain ⟨hleft, rfl, hright⟩ := hjson
  obtain rfl := Operand.toJson_injective hleft
  cases right with
  | none =>
    cases right' with
    | none => rfl
    | some operand => simp [Json.optionalField] at hright
  | some operand =>
    cases right' with
    | none => simp [Json.optionalField] at hright
    | some operand' =>
      have hoperand : operand.toJson = operand'.toJson := by
        simpa [Json.optionalField] using hright
      rw [Operand.toJson_injective hoperand]

theorem Connective.text_injective : Function.Injective Connective.text := by
  intro c c' htext
  cases c <;> cases c' <;> simp_all [text]

theorem Group.jsonItems_injective :
    Function.Injective (jsonItems Statement.toJson) := by
  intro g h hitems
  induction g generalizing h with
  | empty =>
    cases h <;> simp_all [jsonItems]
  | statement s rest ih =>
    cases h with
    | empty => simp [jsonItems] at hitems
    | statement s' rest' =>
      rw [jsonItems, jsonItems, List.cons.injEq] at hitems
      rw [Statement.toJson_injective hitems.1, ih hitems.2]
    | connective c rest' => simp [jsonItems, Statement.toJson] at hitems
    | nested inner rest' => simp [jsonItems, Statement.toJson] at hitems
  | connective c rest ih =>
    cases h with
    | empty => simp [jsonItems] at hitems
    | statement s rest' => simp [jsonItems, Statement.toJson] at hitems
    | connective c' rest' =>
      rw [jsonItems, jsonItems, List.cons.injEq, Json.string.injEq] at hitems
      rw [Connective.text_injective hitems.1, ih hitems.2]
    | nested inner rest' => simp [jsonItems] at hitems
  | nested inner rest ihInner ihRest =>
    cases h with
    | empty => simp [jsonItems] at hitems
    | statement s rest' => simp [jsonItems, Statement.toJson] at hitems
    | connective c rest' => simp [jsonItems] at hitems
    | nested inner' rest' =>
      rw [jsonItems, jsonItems, List.cons.injEq, Json.array.injEq] at hitems
      rw [ihInner hitems.1, ihRest hitems.2]

/-! ## Finite numbers -/

def Operand.HasFiniteNumbers : Operand → Prop
  | .literal (.number value) => value.isFinite = true
  | _ => True

structure Statement.HasFiniteNumbers (s : Statement) : Prop where
  left : s.left.HasFiniteNumbers
  right : ∀ operand ∈ s.right, operand.HasFiniteNumbers

/-- The numbers of all statements are finite, at every depth. -/
def Group.HasFiniteNumbers (g : Group Statement) : Prop :=
  ∀ s ∈ g.flat, s.HasFiniteNumbers

theorem Operand.isExact_toJson {operand : Operand}
    (hfinite : operand.HasFiniteNumbers) : operand.toJson.IsExact := by
  cases operand with
  | literal value =>
    have hvalue : value.toJson.IsExact := by
      cases value with
      | number value => exact .atom (.number hfinite)
      | string value => exact .string value
      | boolean value => exact .atom (.boolean value)
    refine .object ?_
    simpa using ⟨.string _, hvalue⟩
  | reference name =>
    refine .object ?_
    simpa using ⟨Json.IsExact.string _, .string name⟩

theorem Statement.isExact_toJson {s : Statement}
    (hfinite : s.HasFiniteNumbers) : s.toJson.IsExact := by
  rcases s with ⟨left, operator, right⟩
  have hleft := Operand.isExact_toJson hfinite.left
  have hoperator := Json.IsExact.string operator
  refine .object ?_
  cases right with
  | none => simpa [Json.optionalField] using ⟨hleft, hoperator⟩
  | some operand =>
    have hright := Operand.isExact_toJson (hfinite.right operand rfl)
    simpa [Json.optionalField] using ⟨hleft, hoperator, hright⟩

namespace Group

theorem isExact_of_mem_jsonItems {g : Group Statement}
    (hfinite : g.HasFiniteNumbers) :
    ∀ item ∈ g.jsonItems Statement.toJson, item.IsExact := by
  induction g with
  | empty => simp [jsonItems]
  | statement s rest ih =>
    obtain ⟨hstatement, hrest⟩ := List.forall_mem_cons.mp hfinite
    exact List.forall_mem_cons.mpr
      ⟨Statement.isExact_toJson hstatement, ih hrest⟩
  | connective c rest ih =>
    exact List.forall_mem_cons.mpr ⟨.string c.text, ih hfinite⟩
  | nested inner rest ihInner ihRest =>
    obtain ⟨hinner, hrest⟩ := List.forall_mem_append.mp hfinite
    exact List.forall_mem_cons.mpr ⟨.array (ihInner hinner), ihRest hrest⟩

/-- The compact JSON text of a group with finite numbers loses nothing. -/
theorem compact_toJson_inj {g h : Group Statement} (hg : g.HasFiniteNumbers)
    (hh : h.HasFiniteNumbers) :
    (g.toJson Statement.toJson).compact = (h.toJson Statement.toJson).compact ↔
      g = h := by
  have hexact := Json.IsExact.array (isExact_of_mem_jsonItems hg)
  have hexact' := Json.IsExact.array (isExact_of_mem_jsonItems hh)
  rw [toJson, toJson, Json.compact_inj hexact hexact', Json.array.injEq]
  exact jsonItems_injective.eq_iff

/-- A string that spells minus zero and closes its object is not minus zero, and
a group is not the group around it. -/
theorem compact_toJson_inj_minus_zero :
    let g : Group Statement :=
      .statement ⟨.literal (.string "-0.0\"\x7d"), "AND", none⟩ .empty
    let h : Group Statement :=
      .statement ⟨.literal (.number (.finite true ⟨0, by decide⟩)), "AND", none⟩
        .empty
    let around : Group Statement := .nested g .empty
    g.HasFiniteNumbers ∧ h.HasFiniteNumbers ∧ around.HasFiniteNumbers ∧
      (g.toJson Statement.toJson).compact ≠
        (h.toJson Statement.toJson).compact ∧
      (g.toJson Statement.toJson).compact ≠
        (around.toJson Statement.toJson).compact := by
  intro g h around
  have hg : g.HasFiniteNumbers :=
    List.forall_mem_singleton.mpr ⟨trivial, by simp⟩
  have hh : h.HasFiniteNumbers :=
    List.forall_mem_singleton.mpr ⟨rfl, by simp⟩
  have haround : around.HasFiniteNumbers := hg
  have hnumber : g ≠ h := by decide
  have hnested : g ≠ around := by decide
  exact ⟨hg, hh, haround, (compact_toJson_inj hg hh).not.mpr hnumber,
    (compact_toJson_inj hg haround).not.mpr hnested⟩

end Group

end FilterLanguage
