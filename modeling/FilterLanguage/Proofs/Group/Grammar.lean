import FilterLanguage.Group.Parser

/-!
# Grammatical groups

The groups that the grammar derives, said of the groups themselves: items and
connectives take turns, an item comes first and last, and every nested group is
of that kind too.  Such a group is determined by its tokens, whatever stands
behind them, as long as that cannot go on with the group.
-/

namespace FilterLanguage

theorem Parser.lt_of_reached_eq_false {limit : Option Nat} {depth : Nat}
    (hreached : reached limit depth = false) :
    ∀ bound ∈ limit, depth + 1 ≤ bound := by
  intro bound hbound
  rw [Option.mem_def.mp hbound] at hreached
  have hlt : ¬ bound ≤ depth := of_decide_eq_false hreached
  omega

/-- What stands next in a group. -/
inductive Turn where
  | item
  | connective
deriving DecidableEq

namespace Group

variable {α : Type}

/-- Items and connectives take turns from here on, and the last one is an
item. -/
def Alternates : Group α → Turn → Prop
  | .empty, .connective => True
  | .statement _ rest, .item => rest.Alternates .connective
  | .nested inner rest, .item =>
    inner.Alternates .item ∧ rest.Alternates .connective
  | .connective _ rest, .connective => rest.Alternates .item
  | _, _ => False

/-- The group is empty or alternates from an item to an item. -/
def IsFilter (g : Group α) : Prop := g = .empty ∨ g.Alternates .item

theorem Alternates.isEmpty_eq_false {g : Group α} (hg : g.Alternates .item) :
    g.isEmpty = false := by
  cases g with
  | empty => exact hg.elim
  | statement s rest => rfl
  | connective c rest => rfl
  | nested inner rest => rfl

/-- Inside `depth` groups, the groups nested in this one stay within the
limit. -/
def FitsWithin (g : Group α) (limit : Option Nat) (depth : Nat) : Prop :=
  ∀ bound ∈ limit, depth + g.innerDepth ≤ bound

theorem fitsWithin_none (g : Group α) (depth : Nat) :
    g.FitsWithin none depth := by
  intro bound hbound
  cases hbound

theorem fitsWithin_nested_iff {inner rest : Group α} {limit : Option Nat}
    {depth : Nat} (hinner : inner.isEmpty = false) :
    (nested inner rest).FitsWithin limit depth ↔
      Parser.reached limit depth = false ∧
        inner.FitsWithin limit (depth + 1) ∧ rest.FitsWithin limit depth := by
  cases limit with
  | none => simp [FitsWithin, Parser.reached]
  | some bound =>
    simp only [FitsWithin, Option.mem_def, Option.some.injEq, forall_eq',
      innerDepth, hinner, Bool.false_eq_true, if_false, Parser.reached,
      decide_eq_false_iff_not]
    omega

end Group

theorem Operand.token_injective {x y : Operand} (h : x.token = y.token) :
    x = y := by
  cases x <;> cases y <;> simp_all [Operand.token]

@[simp] theorem Operand.endsStatement_token (x : Operand) :
    x.token.endsStatement = false := by
  cases x <;> rfl

theorem Token.operand?_eq_some_iff {token : Token} {x : Operand} :
    token.operand? = some x ↔ token = x.token := by
  cases token <;> cases x <;> simp [operand?, Operand.token, eq_comm]

theorem Token.word?_eq_some_iff {token : Token} {name : String} :
    token.word? = some name ↔ token = .reference name := by
  cases token <;> simp [word?]

theorem Statement.tokens_eq (s : Statement) :
    s.tokens = s.left.token :: .reference s.operator ::
      (s.right.map Operand.token).toList := by
  unfold Statement.tokens
  cases s.right <;> rfl

/-- No right operand can follow. -/
def EndsStatement (tokens : List Token) : Prop :=
  ∀ token ∈ tokens.head?, token.endsStatement = true

/-- No element and no connective can follow. -/
def EndsGroup (tokens : List Token) : Prop :=
  ∀ token ∈ tokens.head?, token = .groupEnd

theorem EndsGroup.endsStatement {tokens : List Token}
    (hend : EndsGroup tokens) : EndsStatement tokens := by
  intro token htoken
  rw [hend token htoken]
  rfl

theorem endsGroup_groupEnd (tokens : List Token) :
    EndsGroup (.groupEnd :: tokens) := by
  simp [EndsGroup]

theorem not_endsGroup_connective (c : Connective) (tokens : List Token) :
    ¬ EndsGroup (.connective c :: tokens) := by
  simp [EndsGroup]

theorem not_endsStatement_operand (x : Operand) (tokens : List Token) :
    ¬ EndsStatement (x.token :: tokens) := by
  simp [EndsStatement]

theorem Statement.tokens_append_ne_groupBegin (s : Statement)
    (after after' : List Token) : s.tokens ++ after ≠ .groupBegin :: after' := by
  rw [Statement.tokens_eq]
  cases s.left <;> simp [Operand.token]

theorem Statement.tokens_append_injective {s t : Statement}
    {after after' : List Token} (hafter : s.right = none → EndsStatement after)
    (hafter' : t.right = none → EndsStatement after')
    (heq : s.tokens ++ after = t.tokens ++ after') : s = t ∧ after = after' := by
  rcases s with ⟨left, operator, right⟩
  rcases t with ⟨left', operator', right'⟩
  simp only [Statement.tokens_eq, List.cons_append, List.cons.injEq,
    Token.reference.injEq] at heq
  obtain ⟨hleft, rfl, hright⟩ := heq
  obtain rfl := Operand.token_injective hleft
  cases right with
  | none =>
    cases right' with
    | none => exact ⟨rfl, hright⟩
    | some y =>
      have hhead : after = y.token :: after' := hright
      rw [hhead] at hafter
      exact (not_endsStatement_operand y after' (hafter rfl)).elim
  | some x =>
    cases right' with
    | none =>
      have hhead : x.token :: after = after' := hright
      rw [← hhead] at hafter'
      exact (not_endsStatement_operand x after (hafter' rfl)).elim
    | some y =>
      simp only [Option.map_some, Option.toList_some, List.cons_append,
        List.nil_append, List.cons.injEq] at hright
      obtain rfl := Operand.token_injective hright.1
      exact ⟨rfl, hright.2⟩

namespace Group

theorem endsStatement_tokens_append {g : Group Statement}
    {after : List Token} (hg : g.Alternates .connective)
    (hafter : EndsGroup after) : EndsStatement (g.tokens ++ after) := by
  cases g with
  | empty => exact hafter.endsStatement
  | statement s rest => exact hg.elim
  | connective c rest => simp [tokens, EndsStatement, Token.endsStatement]
  | nested inner rest => exact hg.elim

theorem tokens_append_injective {g h : Group Statement} {turn : Turn}
    {after after' : List Token} (hg : g.Alternates turn)
    (hh : h.Alternates turn) (hafter : EndsGroup after)
    (hafter' : EndsGroup after')
    (heq : g.tokens ++ after = h.tokens ++ after') : g = h ∧ after = after' := by
  induction g generalizing h turn after after' with
  | empty =>
    cases turn with
    | item => exact hg.elim
    | connective =>
      cases h with
      | empty => exact ⟨rfl, heq⟩
      | statement s rest => exact hh.elim
      | connective c rest =>
        have hhead : after = .connective c :: (rest.tokens ++ after') := heq
        rw [hhead] at hafter
        exact (not_endsGroup_connective c _ hafter).elim
      | nested inner rest => exact hh.elim
  | statement s rest ih =>
    cases turn with
    | connective => exact hg.elim
    | item =>
      cases h with
      | empty => exact hh.elim
      | statement t rest' =>
        simp only [tokens, List.append_assoc] at heq
        obtain ⟨rfl, hrest⟩ :=
          Statement.tokens_append_injective
            (fun _ => endsStatement_tokens_append hg hafter)
            (fun _ => endsStatement_tokens_append hh hafter') heq
        obtain ⟨rfl, rfl⟩ := ih hg hh hafter hafter' hrest
        exact ⟨rfl, rfl⟩
      | connective c rest' => exact hh.elim
      | nested inner rest' =>
        simp only [tokens, List.append_assoc, List.cons_append] at heq
        exact (s.tokens_append_ne_groupBegin _ _ heq).elim
  | connective c rest ih =>
    cases turn with
    | item => exact hg.elim
    | connective =>
      cases h with
      | empty =>
        have hhead : .connective c :: (rest.tokens ++ after) = after' := heq
        rw [← hhead] at hafter'
        exact (not_endsGroup_connective c _ hafter').elim
      | statement s rest' => exact hh.elim
      | connective d rest' =>
        simp only [tokens, List.cons_append, List.cons.injEq,
          Token.connective.injEq] at heq
        obtain ⟨rfl, hrest⟩ := heq
        obtain ⟨rfl, rfl⟩ := ih hg hh hafter hafter' hrest
        exact ⟨rfl, rfl⟩
      | nested inner rest' => exact hh.elim
  | nested inner rest ihInner ihRest =>
    cases turn with
    | connective => exact hg.elim
    | item =>
      cases h with
      | empty => exact hh.elim
      | statement s rest' =>
        simp only [tokens, List.append_assoc, List.cons_append] at heq
        exact (s.tokens_append_ne_groupBegin _ _ heq.symm).elim
      | connective c rest' => exact hh.elim
      | nested inner' rest' =>
        simp only [tokens, List.cons_append, List.append_assoc,
          List.cons.injEq, true_and] at heq
        obtain ⟨rfl, hclosed⟩ :=
          ihInner hg.1 hh.1 (endsGroup_groupEnd _) (endsGroup_groupEnd _) heq
        obtain ⟨rfl, rfl⟩ :=
          ihRest hg.2 hh.2 hafter hafter' (List.cons.inj hclosed).2
        exact ⟨rfl, rfl⟩

/-- A filter is determined by its tokens. -/
theorem IsFilter.eq_of_tokens_eq {g h : Group Statement} (hg : g.IsFilter)
    (hh : h.IsFilter) (heq : g.tokens = h.tokens) : g = h := by
  have hnil : EndsGroup [] := by simp [EndsGroup]
  have hne : ∀ k : Group Statement, k.Alternates .item → k.tokens ≠ [] := by
    intro k hk
    cases k with
    | empty => exact hk.elim
    | statement s rest => simp [tokens, Statement.tokens_eq]
    | connective c rest => simp [tokens]
    | nested inner rest => simp [tokens]
  rcases hg with rfl | hg
  · rcases hh with rfl | hh
    · rfl
    · exact (hne h hh heq.symm).elim
  · rcases hh with rfl | hh
    · exact (hne g hg heq).elim
    · have happend : g.tokens ++ [] = h.tokens ++ [] := by rw [heq]
      exact (tokens_append_injective hg hh hnil hnil happend).1

end Group

end FilterLanguage
