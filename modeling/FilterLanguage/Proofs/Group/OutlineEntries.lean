import FilterLanguage.Group.Outline
import FilterLanguage.Proofs.Group.RoundTrip
import Mathlib.Data.List.ModifyLast

/-!
# Lines of outlines

An outline is a list of lines, each at the depth of what it tells.  The lines of
a group determine the group, since whatever belongs to an element stands deeper
than what follows the element.

The last name of a group is on its last line.  So a group without white space at
the end of this name has the same lines but for the last one.
-/

namespace FilterLanguage

/-- What a line tells. -/
inductive OutlineNode where
  | group
  | statement
  | connective (c : Connective)
  | operator (name : String)
  | operand (x : Operand)

/-- The fixed part of a line. -/
inductive OutlineLabel where
  | group
  | statement
  | connective (c : Connective)
  | operator
  | literal
  | reference
deriving DecidableEq

structure OutlineEntry where
  depth : ℕ
  node : OutlineNode

def OutlineLabel.text : OutlineLabel → String
  | .group => "Group"
  | .statement => "Statement"
  | .connective c => c.text
  | .operator => "Operator "
  | .literal => "Literal "
  | .reference => "Reference "

namespace OutlineNode

def label : OutlineNode → OutlineLabel
  | .group => .group
  | .statement => .statement
  | .connective c => .connective c
  | .operator _ => .operator
  | .operand (.literal _) => .literal
  | .operand (.reference _) => .reference

def body : OutlineNode → String
  | .operator name => name
  | .operand x => x.text
  | _ => ""

def text (node : OutlineNode) : String := node.label.text ++ node.body

def IsWritable : OutlineNode → Prop
  | .operator name => IsBareWord name
  | .operand x => x.IsWritable
  | _ => True

end OutlineNode

def OutlineEntry.chars (entry : OutlineEntry) : List Char :=
  (outlineLine entry.depth entry.node.text).toList

/-- The entry stands below another one, and what it tells can be written. -/
structure OutlineEntry.IsWritten (entry : OutlineEntry) : Prop where
  depth : 0 < entry.depth
  node : entry.node.IsWritable

def layOutEntries (entries : List OutlineEntry) : List Char :=
  entries.flatMap OutlineEntry.chars

def Statement.entries (depth : ℕ) (s : Statement) : List OutlineEntry :=
  ⟨depth, .statement⟩ :: ⟨depth + 1, .operand s.left⟩ ::
    ⟨depth + 1, .operator s.operator⟩ ::
    (s.right.map fun x => OutlineEntry.mk (depth + 1) (.operand x)).toList

def Group.entries (depth : ℕ) : Group Statement → List OutlineEntry
  | .empty => []
  | .statement s rest => s.entries depth ++ rest.entries depth
  | .connective c rest => ⟨depth, .connective c⟩ :: rest.entries depth
  | .nested inner rest =>
    ⟨depth, .group⟩ :: (inner.entries (depth + 1) ++ rest.entries depth)

@[simp] theorem layOutEntries_nil : layOutEntries [] = [] := rfl

@[simp] theorem layOutEntries_cons (entry : OutlineEntry)
    (entries : List OutlineEntry) :
    layOutEntries (entry :: entries) = entry.chars ++ layOutEntries entries :=
  List.flatMap_cons

@[simp] theorem layOutEntries_append (entries entries' : List OutlineEntry) :
    layOutEntries (entries ++ entries') =
      layOutEntries entries ++ layOutEntries entries' :=
  List.flatMap_append

/-! ## An outline is its lines -/

theorem outlineLine_toList (depth : ℕ) (node : String) :
    (outlineLine depth node).toList =
      spaces (2 * depth) ++ (node.toList ++ ['\n']) := by
  simp [outlineLine, spaces]

theorem Operand.outline_toList (depth : ℕ) (x : Operand) :
    (x.outline depth).toList = OutlineEntry.chars ⟨depth, .operand x⟩ := by
  cases x <;> rfl

theorem Statement.outline_toList (depth : ℕ) (s : Statement) :
    (s.outline depth).toList = layOutEntries (s.entries depth) := by
  have hstatement : OutlineNode.statement.text = "Statement" := rfl
  have hoperator : ∀ name,
      (OutlineNode.operator name).text = "Operator " ++ name := fun _ => rfl
  cases hright : s.right <;>
    simp [outline, entries, hright, Operand.outline_toList, OutlineEntry.chars,
      hstatement, hoperator]

theorem Group.elementOutline_toList (depth : ℕ) (g : Group Statement) :
    (g.elementOutline depth).toList = layOutEntries (g.entries depth) := by
  have hgroup : OutlineNode.group.text = "Group" := rfl
  have hconnective : ∀ c, (OutlineNode.connective c).text = c.text ++ "" :=
    fun _ => rfl
  induction g generalizing depth with
  | empty => rfl
  | statement s rest ih =>
    simp [elementOutline, entries, Statement.outline_toList, ih]
  | connective c rest ih =>
    simp [elementOutline, entries, OutlineEntry.chars, hconnective, ih]
  | nested inner rest ihInner ihRest =>
    simp [elementOutline, entries, OutlineEntry.chars, hgroup, ihInner, ihRest]

theorem Group.outline_toList (g : Group Statement) :
    g.outline.toList = trimEnd
      ((outlineLine 0 "Group").toList ++ layOutEntries (g.entries 1)) := by
  simp [outline, elementOutline_toList]

/-! ## Entries that can be written -/

theorem Statement.IsWritable.isWritten_of_mem_entries {s : Statement}
    (hs : s.IsWritable) {depth : ℕ} (hdepth : 0 < depth) :
    ∀ entry ∈ s.entries depth, entry.IsWritten := by
  have hinner : 0 < depth + 1 := Nat.succ_pos depth
  simp only [entries, List.forall_mem_cons, Option.mem_toList]
  refine ⟨⟨hdepth, trivial⟩, ⟨hinner, hs.left⟩, ⟨hinner, hs.operator⟩, ?_⟩
  intro entry hentry
  obtain ⟨x, hx, rfl⟩ := Option.map_eq_some_iff.mp hentry
  exact ⟨hinner, hs.right x hx⟩

theorem Group.isWritten_of_mem_entries {g : Group Statement}
    (hg : ∀ s ∈ g.flat, s.IsWritable) {depth : ℕ} (hdepth : 0 < depth) :
    ∀ entry ∈ g.entries depth, entry.IsWritten := by
  induction g generalizing depth with
  | empty => simp [entries]
  | statement s rest ih =>
    simp only [flat, List.forall_mem_cons] at hg
    simp only [entries, List.forall_mem_append]
    exact ⟨hg.1.isWritten_of_mem_entries hdepth, ih hg.2 hdepth⟩
  | connective c rest ih =>
    simp only [entries, List.forall_mem_cons]
    exact ⟨⟨hdepth, trivial⟩, ih hg hdepth⟩
  | nested inner rest ihInner ihRest =>
    simp only [flat, List.forall_mem_append] at hg
    simp only [entries, List.forall_mem_cons, List.forall_mem_append]
    exact ⟨⟨hdepth, trivial⟩, ihInner hg.1 (Nat.succ_pos depth),
      ihRest hg.2 hdepth⟩

/-! ## Without white space at the end -/

/-- The name without white space at its end. -/
def trimmedName (name : String) : String :=
  String.ofList (trimEnd name.toList)

def Operand.trimmed : Operand → Operand
  | .literal value => .literal value
  | .reference name => .reference (trimmedName name)

/-- Only the last part can change. -/
def Statement.trimmed (s : Statement) : Statement :=
  match s.right with
  | some right => { s with right := some right.trimmed }
  | none => { s with operator := trimmedName s.operator }

/-- Only the last element can change: a statement, or the last one inside a
nested group. -/
def Group.trimmed : Group Statement → Group Statement
  | .empty => .empty
  | .statement s rest =>
    if rest.isEmpty then .statement s.trimmed rest
    else .statement s rest.trimmed
  | .connective c rest => .connective c rest.trimmed
  | .nested inner rest =>
    if rest.isEmpty then .nested inner.trimmed rest
    else .nested inner rest.trimmed

def OutlineNode.trimmed : OutlineNode → OutlineNode
  | .operator name => .operator (trimmedName name)
  | .operand x => .operand x.trimmed
  | node => node

def OutlineEntry.trimmed (entry : OutlineEntry) : OutlineEntry :=
  ⟨entry.depth, entry.node.trimmed⟩

theorem modifyLast_cons_of_ne_nil {α : Type} (f : α → α) (x : α) {xs : List α}
    (hxs : xs ≠ []) : (x :: xs).modifyLast f = x :: xs.modifyLast f :=
  List.modifyLast_append_of_right_ne_nil f [x] xs hxs

theorem modifyLast_trimmed_cons {entry : OutlineEntry}
    (hentry : entry.trimmed = entry) (entries : List OutlineEntry) :
    (entry :: entries).modifyLast OutlineEntry.trimmed =
      entry :: entries.modifyLast OutlineEntry.trimmed := by
  cases entries with
  | nil => exact congrArg (fun last => [last]) hentry
  | cons next entries =>
    exact modifyLast_cons_of_ne_nil _ entry (List.cons_ne_nil next entries)

theorem Statement.entries_trimmed (depth : ℕ) (s : Statement) :
    s.trimmed.entries depth =
      (s.entries depth).modifyLast OutlineEntry.trimmed := by
  cases hright : s.right with
  | none =>
    simp only [trimmed, entries, hright, Option.map_none, Option.toList_none]
    rfl
  | some right =>
    simp only [trimmed, entries, hright, Option.map_some, Option.toList_some]
    rfl

namespace Group

theorem eq_empty_of_isEmpty {α : Type} {g : Group α} (hg : g.isEmpty = true) :
    g = .empty := by
  cases g with
  | empty => rfl
  | statement s rest => simp [isEmpty] at hg
  | connective c rest => simp [isEmpty] at hg
  | nested inner rest => simp [isEmpty] at hg

theorem entries_ne_nil {g : Group Statement} (hg : g.isEmpty = false)
    (depth : ℕ) : g.entries depth ≠ [] := by
  cases g with
  | empty => simp [isEmpty] at hg
  | statement s rest => simp [entries, Statement.entries]
  | connective c rest => simp [entries]
  | nested inner rest => simp [entries]

theorem entries_trimmed (depth : ℕ) (g : Group Statement) :
    g.trimmed.entries depth =
      (g.entries depth).modifyLast OutlineEntry.trimmed := by
  induction g generalizing depth with
  | empty => rfl
  | statement s rest ih =>
    cases hrest : rest.isEmpty with
    | true =>
      rw [eq_empty_of_isEmpty hrest]
      simp [trimmed, isEmpty, entries, Statement.entries_trimmed]
    | false =>
      have hne := entries_ne_nil hrest depth
      simp [trimmed, hrest, entries, ih,
        List.modifyLast_append_of_right_ne_nil _ _ _ hne]
  | connective c rest ih =>
    rw [trimmed, entries, entries, ih, modifyLast_trimmed_cons rfl]
  | nested inner rest ihInner ihRest =>
    rw [entries, modifyLast_trimmed_cons rfl]
    cases hrest : rest.isEmpty with
    | true =>
      rw [eq_empty_of_isEmpty hrest]
      simp [trimmed, isEmpty, entries, ihInner]
    | false =>
      have hne := entries_ne_nil hrest depth
      simp [trimmed, hrest, entries, ihRest,
        List.modifyLast_append_of_right_ne_nil _ _ _ hne]

end Group

/-! ## Lines determine groups -/

/-- What follows belongs to an element further out. -/
def EndsAt (depth : ℕ) (entries : List OutlineEntry) : Prop :=
  ∀ entry ∈ entries.head?, entry.depth < depth

theorem endsAt_nil (depth : ℕ) : EndsAt depth [] := by
  simp [EndsAt]

theorem not_endsAt_cons (entry : OutlineEntry) (entries : List OutlineEntry) :
    ¬ EndsAt entry.depth (entry :: entries) := by
  simp [EndsAt]

theorem Group.endsAt_entries_append (g : Group Statement) {depth : ℕ}
    {after : List OutlineEntry} (hafter : EndsAt depth after) :
    EndsAt (depth + 1) (g.entries depth ++ after) := by
  cases g with
  | empty =>
    intro entry hentry
    exact (hafter entry hentry).trans (Nat.lt_succ_self depth)
  | statement s rest => simp [EndsAt, entries, Statement.entries]
  | connective c rest => simp [EndsAt, entries]
  | nested inner rest => simp [EndsAt, entries]

theorem Group.eq_empty_of_endsAt {g : Group Statement} {depth : ℕ}
    {after after' : List OutlineEntry} (hends : EndsAt depth after')
    (heq : g.entries depth ++ after = after') : g = .empty := by
  subst heq
  cases g with
  | empty => rfl
  | statement s rest => exact (not_endsAt_cons _ _ hends).elim
  | connective c rest => exact (not_endsAt_cons _ _ hends).elim
  | nested inner rest => exact (not_endsAt_cons _ _ hends).elim

theorem Statement.entries_append_injective {s t : Statement} {depth : ℕ}
    {after after' : List OutlineEntry} (hafter : EndsAt (depth + 1) after)
    (hafter' : EndsAt (depth + 1) after')
    (heq : s.entries depth ++ after = t.entries depth ++ after') :
    s = t ∧ after = after' := by
  rcases s with ⟨left, operator, right⟩
  rcases t with ⟨left', operator', right'⟩
  simp only [entries, List.cons_append, List.cons.injEq, OutlineEntry.mk.injEq,
    OutlineNode.operand.injEq, OutlineNode.operator.injEq, true_and] at heq
  obtain ⟨rfl, rfl, hright⟩ := heq
  cases right with
  | none =>
    cases right' with
    | none => exact ⟨rfl, hright⟩
    | some y =>
      have hhead : after = ⟨depth + 1, .operand y⟩ :: after' := hright
      rw [hhead] at hafter
      exact (not_endsAt_cons _ _ hafter).elim
  | some x =>
    cases right' with
    | none =>
      have hhead : ⟨depth + 1, .operand x⟩ :: after = after' := hright
      rw [← hhead] at hafter'
      exact (not_endsAt_cons _ _ hafter').elim
    | some y =>
      simp only [Option.map_some, Option.toList_some, List.cons_append,
        List.nil_append, List.cons.injEq, OutlineEntry.mk.injEq,
        OutlineNode.operand.injEq, true_and] at hright
      obtain ⟨rfl, hright⟩ := hright
      exact ⟨rfl, hright⟩

/-- An inner group ends where the entries are as deep as the group around it
again. -/
theorem Group.entries_append_injective {g h : Group Statement} {depth : ℕ}
    {after after' : List OutlineEntry} (hafter : EndsAt depth after)
    (hafter' : EndsAt depth after')
    (heq : g.entries depth ++ after = h.entries depth ++ after') :
    g = h ∧ after = after' := by
  induction g generalizing h depth after after' with
  | empty =>
    obtain rfl := eq_empty_of_endsAt hafter heq.symm
    exact ⟨rfl, heq⟩
  | statement s rest ih =>
    cases h with
    | empty => cases eq_empty_of_endsAt hafter' heq
    | statement t rest' =>
      simp only [entries, List.append_assoc] at heq
      obtain ⟨rfl, hrest⟩ := Statement.entries_append_injective
        (rest.endsAt_entries_append hafter)
        (rest'.endsAt_entries_append hafter') heq
      obtain ⟨rfl, rfl⟩ := ih hafter hafter' hrest
      exact ⟨rfl, rfl⟩
    | connective c rest' => simp [entries, Statement.entries] at heq
    | nested inner rest' => simp [entries, Statement.entries] at heq
  | connective c rest ih =>
    cases h with
    | empty => cases eq_empty_of_endsAt hafter' heq
    | statement t rest' => simp [entries, Statement.entries] at heq
    | connective d rest' =>
      simp only [entries, List.cons_append, List.cons.injEq,
        OutlineEntry.mk.injEq, OutlineNode.connective.injEq, true_and] at heq
      obtain ⟨rfl, hrest⟩ := heq
      obtain ⟨rfl, rfl⟩ := ih hafter hafter' hrest
      exact ⟨rfl, rfl⟩
    | nested inner rest' => simp [entries] at heq
  | nested inner rest ihInner ihRest =>
    cases h with
    | empty => cases eq_empty_of_endsAt hafter' heq
    | statement t rest' => simp [entries, Statement.entries] at heq
    | connective d rest' => simp [entries] at heq
    | nested inner' rest' =>
      simp only [entries, List.cons_append, List.append_assoc, List.cons.injEq,
        true_and] at heq
      obtain ⟨rfl, hrest⟩ := ihInner (rest.endsAt_entries_append hafter)
        (rest'.endsAt_entries_append hafter') heq
      obtain ⟨rfl, rfl⟩ := ihRest hafter hafter' hrest
      exact ⟨rfl, rfl⟩

theorem Group.entries_injective {g h : Group Statement} {depth : ℕ}
    (heq : g.entries depth = h.entries depth) : g = h := by
  have hends := endsAt_nil depth
  have happend : g.entries depth ++ [] = h.entries depth ++ [] := by rw [heq]
  exact (entries_append_injective hends hends happend).1

end FilterLanguage
