import FilterLanguage.Group.Basic

/-!
# Walking a group

A walk visits the statements of a group one at a time.  It keeps a stack of
what is left of the groups that were entered and not yet finished, the innermost
first.
-/

namespace FilterLanguage

/-- Elements of a group at every depth, and one for the end of each group. -/
def Group.weight {α : Type} : Group α → Nat
  | .empty => 1
  | .statement _ rest | .connective _ rest => rest.weight + 1
  | .nested inner rest => inner.weight + rest.weight + 1

structure Walk (α : Type) where
  pending : List (Group α)

namespace Walk

variable {α : Type}

def ofGroup (g : Group α) : Walk α := ⟨[g]⟩

def weight (walk : Walk α) : Nat :=
  walk.pending.foldr (fun g total => g.weight + total) 0

/-- The next statement and the walk behind it. -/
def next? : Walk α → Option (α × Walk α)
  | ⟨[]⟩ => none
  | ⟨.empty :: stack⟩ => next? ⟨stack⟩
  | ⟨.statement s rest :: stack⟩ => some (s, ⟨rest :: stack⟩)
  | ⟨.connective _ rest :: stack⟩ => next? ⟨rest :: stack⟩
  | ⟨.nested inner rest :: stack⟩ => next? ⟨inner :: rest :: stack⟩
termination_by walk => walk.weight
decreasing_by
  all_goals simp only [weight, Group.weight, List.foldr_cons]; omega

theorem next?_weight {walk after : Walk α} {s : α}
    (h : walk.next? = some (s, after)) : after.weight < walk.weight := by
  fun_induction next? walk with
  | case1 => simp at h
  | case2 stack ih =>
    have := ih h
    simp only [weight, Group.weight, List.foldr_cons] at this ⊢
    omega
  | case3 t rest stack =>
    simp only [Option.some.injEq, Prod.mk.injEq] at h
    obtain ⟨_, rfl⟩ := h
    simp only [weight, Group.weight, List.foldr_cons]
    omega
  | case4 c rest stack ih =>
    have := ih h
    simp only [weight, Group.weight, List.foldr_cons] at this ⊢
    omega
  | case5 inner rest stack ih =>
    have := ih h
    simp only [weight, Group.weight, List.foldr_cons] at this ⊢
    omega

def toList (walk : Walk α) : List α :=
  match _hnext : walk.next? with
  | none => []
  | some (s, after) => s :: toList after
termination_by walk.weight
decreasing_by exact next?_weight _hnext

end Walk

/-- The statements of a group, as a walk visits them. -/
def Group.statements {α : Type} (g : Group α) : List α := (Walk.ofGroup g).toList

end FilterLanguage
