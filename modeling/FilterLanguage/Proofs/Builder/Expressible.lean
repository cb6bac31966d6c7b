import FilterLanguage.Builder
import FilterLanguage.Proofs.Group.RoundTrip

/-!
# Expressible statements

The check that a builder makes, scanning each part of a statement on its own,
accepts exactly the writable statements.  For any other statement it names the
first part that cannot be written.
-/

namespace FilterLanguage

namespace Token

theorem single?_text {token : Token} (hwritable : token.IsWritable) :
    single? token.text = some token := by
  have hends : token.isRun = true → EndsRun [] := fun _ => EndsRun.nil
  have hnext : Cursor.next ⟨0, token.text.toList ++ []⟩ = _ :=
    Cursor.next_text hwritable hends
  rw [List.append_nil] at hnext
  have hcursor : Cursor.ofText token.text = ⟨0, token.text.toList⟩ := rfl
  rw [single?, hcursor, hnext]
  simp only [Cursor.next_nil]

theorem single?_of_isBareWord {name : String} (hname : IsBareWord name) :
    single? name = some (.reference name) := by
  have hwritable : (reference name).IsWritable := hname
  have hsingle := single?_text hwritable
  rw [text] at hsingle
  exact hsingle

theorem isWritable_of_single? {text : String} {token : Token}
    (hsingle : single? text = some token) : token.IsWritable := by
  unfold single? at hsingle
  split at hsingle
  next found after hnext =>
    split at hsingle
    next hdone =>
      rw [Option.some.injEq] at hsingle
      rw [← hsingle]
      exact Cursor.next_isWritable hnext
    next => simp at hsingle
  next => simp at hsingle

end Token

theorem isExpressibleOperator_iff {operator : String} :
    isExpressibleOperator operator = true ↔ IsBareWord operator := by
  constructor
  · intro hexpressible
    unfold isExpressibleOperator at hexpressible
    split at hexpressible
    next word hsingle =>
      obtain rfl : word = operator := by simpa using hexpressible
      exact Token.isWritable_of_single? hsingle
    next => simp at hexpressible
  · intro hword
    have hsingle := Token.single?_of_isBareWord hword
    simp [isExpressibleOperator, hsingle]

namespace Operand

theorem isWritable_of_isExpressible {x : Operand}
    (hexpressible : x.isExpressible = true) : x.IsWritable := by
  cases x with
  | reference name =>
    cases hsingle : Token.single? name with
    | none => simp [isExpressible, text, hsingle] at hexpressible
    | some token =>
      have hwritable := Token.isWritable_of_single? hsingle
      cases token with
      | reference scanned =>
        obtain rfl : scanned = name := by
          simpa [isExpressible, text, hsingle] using hexpressible
        exact hwritable
      | _ => simp [isExpressible, text, hsingle] at hexpressible
  | literal value =>
    cases value with
    | string value => trivial
    | boolean value => trivial
    | number x =>
      by_contra hx
      have hword := Number.isBareWord_text hx
      have hsingle := Token.single?_of_isBareWord hword
      simp [isExpressible, text, Literal.text, hsingle] at hexpressible

theorem isExpressible_iff {x : Operand} :
    x.isExpressible = true ↔ x.IsWritable := by
  constructor
  · exact isWritable_of_isExpressible
  · intro hx
    have hsingle : Token.single? x.text = some x.token := by
      rw [← Operand.text_token]
      exact Token.single?_text (x.isWritable_token.mpr hx)
    have hequals := hx.equals_self
    cases x with
    | literal value =>
      simp only [isExpressible, hsingle, Operand.token]
      exact hequals
    | reference name => simp [isExpressible, hsingle, Operand.token]

theorem checkExpressible_eq_ok_iff {x : Operand} :
    x.checkExpressible = .ok () ↔ x.IsWritable := by
  rw [checkExpressible, ← isExpressible_iff]
  split <;> simp_all

theorem checkExpressible_of_not_isWritable {x : Operand}
    (hx : ¬ x.IsWritable) :
    x.checkExpressible = .error (.invalidOperand x.text) := by
  rw [← isExpressible_iff] at hx
  rw [checkExpressible, if_neg hx]

end Operand

namespace Statement

/-- Why a statement has no text that reads back as itself.  The left operand
counts before the right one, and both before the operator. -/
inductive IsInexpressible (s : Statement) : Error → Prop
  | left (hleft : ¬ s.left.IsWritable) :
      IsInexpressible s (.invalidOperand s.left.text)
  | right {x : Operand} (hleft : s.left.IsWritable) (hright : s.right = some x)
      (hx : ¬ x.IsWritable) : IsInexpressible s (.invalidOperand x.text)
  | operator (hleft : s.left.IsWritable) (hright : ∀ x ∈ s.right, x.IsWritable)
      (hoperator : ¬ IsBareWord s.operator) :
      IsInexpressible s (.invalidOperator s.operator)

variable {s : Statement} {e : Error}

theorem isWritable_or_isInexpressible (s : Statement) :
    s.IsWritable ∨ ∃ e, s.IsInexpressible e := by
  by_cases hleft : s.left.IsWritable
  · by_cases hright : ∀ x ∈ s.right, x.IsWritable
    · by_cases hoperator : IsBareWord s.operator
      · exact .inl ⟨hleft, hoperator, hright⟩
      · exact .inr ⟨_, .operator hleft hright hoperator⟩
    · simp only [not_forall] at hright
      obtain ⟨x, hoperand, hx⟩ := hright
      exact .inr ⟨_, .right hleft hoperand hx⟩
  · exact .inr ⟨_, .left hleft⟩

theorem checkExpressible_of_operands (hleft : s.left.IsWritable)
    (hright : ∀ x ∈ s.right, x.IsWritable) :
    s.checkExpressible =
      if isExpressibleOperator s.operator then .ok ()
      else .error (.invalidOperator s.operator) := by
  have hcheckedLeft := Operand.checkExpressible_eq_ok_iff.mpr hleft
  unfold checkExpressible
  rw [hcheckedLeft]
  cases hoperand : s.right with
  | none => rfl
  | some x =>
    have hchecked := Operand.checkExpressible_eq_ok_iff.mpr (hright x hoperand)
    simp only [Option.map_some, hchecked]

theorem IsInexpressible.checkExpressible (hs : s.IsInexpressible e) :
    s.checkExpressible = .error e := by
  cases hs with
  | left hleft =>
    have hchecked := Operand.checkExpressible_of_not_isWritable hleft
    simp only [Statement.checkExpressible, hchecked]
  | right hleft hright hx =>
    have hcheckedLeft := Operand.checkExpressible_eq_ok_iff.mpr hleft
    have hchecked := Operand.checkExpressible_of_not_isWritable hx
    simp only [Statement.checkExpressible, hcheckedLeft, hright,
      Option.map_some, hchecked]
  | operator hleft hright hoperator =>
    rw [← isExpressibleOperator_iff] at hoperator
    rw [checkExpressible_of_operands hleft hright, if_neg hoperator]

theorem IsWritable.checkExpressible (hs : s.IsWritable) :
    s.checkExpressible = .ok () := by
  have hoperator := isExpressibleOperator_iff.mpr hs.operator
  rw [checkExpressible_of_operands hs.left hs.right, if_pos hoperator]

theorem checkExpressible_eq_ok_iff :
    s.checkExpressible = .ok () ↔ s.IsWritable :=
  eq_ok_iff_of_exhaustive (fun _ => IsWritable.checkExpressible)
    (fun _ => IsInexpressible.checkExpressible)
    (s.isWritable_or_isInexpressible.imp_left fun hs => ⟨(), hs⟩)

theorem checkExpressible_eq_error_iff :
    s.checkExpressible = .error e ↔ s.IsInexpressible e :=
  eq_error_iff_of_exhaustive (fun _ => IsWritable.checkExpressible)
    (fun _ => IsInexpressible.checkExpressible)
    (s.isWritable_or_isInexpressible.imp_left fun hs => ⟨(), hs⟩)

end Statement

/-! ## The text of the whole statement -/

namespace Group

theorem text_statement (s : Statement) :
    (statement s .empty).text Statement.text = s.text :=
  String.intercalate_singleton

theorem isWellFormed_statement_iff {s : Statement} :
    (statement s .empty).IsWellFormed ↔ s.IsWritable := by
  constructor
  · intro hs
    exact hs.writable s List.mem_cons_self
  · intro hs
    refine ⟨.inr trivial, ?_⟩
    intro t ht
    obtain rfl := List.mem_singleton.mp ht
    exact hs

theorem fitsWithin_statement {α : Type} (s : α) (limit : Option Nat) :
    (statement s .empty).FitsWithin limit 0 :=
  fun bound _ => Nat.zero_le bound

end Group

/-- The check looks at each part on its own, and yet accepts just the statements
whose whole text is parsed to them alone, under any limit, identically or up to
numeric equality.  These are the writable ones.  Any other is refused for the
first part that cannot be written. -/
theorem Statement.checkExpressible_isExact (s : Statement) :
    (s.checkExpressible = .ok () ↔ s.IsWritable) ∧
    (∀ limit, s.checkExpressible = .ok () ↔
      Group.parseWithin limit s.text = .ok (.statement s .empty)) ∧
    (∀ limit, s.checkExpressible = .ok () ↔
      ∃ g, Group.parseWithin limit s.text = .ok g ∧
        g.equalsBy Statement.equals (.statement s .empty) = true) ∧
    (∀ e, s.checkExpressible = .error e ↔ s.IsInexpressible e) := by
  refine ⟨checkExpressible_eq_ok_iff, ?_, ?_,
    fun _ => checkExpressible_eq_error_iff⟩
  · intro limit
    rw [checkExpressible_eq_ok_iff, ← Group.isWellFormed_statement_iff,
      ← Group.text_statement s]
    exact (Group.parseWithin_text_iff (Group.fitsWithin_statement s limit)).symm
  · intro limit
    rw [checkExpressible_eq_ok_iff, ← Group.isWellFormed_statement_iff,
      ← Group.text_statement s]
    exact
      (Group.exists_parse_equal_iff (Group.fitsWithin_statement s limit)).symm

end FilterLanguage
