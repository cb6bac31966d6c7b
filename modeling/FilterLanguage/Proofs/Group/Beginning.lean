import FilterLanguage.Proofs.Group.Derivation

/-!
# Beginnings of groups

How far a list of tokens can be read as the beginning of a group, and which
token cannot come next.  Both are said relative to the turn, so that what holds
behind an element, inside a nested group or behind a connective carries over to
the group around it.
-/

namespace FilterLanguage

namespace Group.Alternates

variable {α : Type} {g : Group α}

theorem item_cases (hg : g.Alternates .item) :
    (∃ s rest, g = .statement s rest ∧ rest.Alternates .connective) ∨
      ∃ inner rest, g = .nested inner rest ∧ inner.Alternates .item ∧
        rest.Alternates .connective := by
  cases g with
  | empty => exact hg.elim
  | statement s rest => exact .inl ⟨s, rest, rfl, hg⟩
  | connective c rest => exact hg.elim
  | nested inner rest => exact .inr ⟨inner, rest, rfl, hg⟩

theorem connective_cases (hg : g.Alternates .connective) :
    g = .empty ∨ ∃ c rest, g = .connective c rest ∧ rest.Alternates .item := by
  cases g with
  | empty => exact .inl rfl
  | statement s rest => exact hg.elim
  | connective c rest => exact .inr ⟨c, rest, rfl, hg⟩
  | nested inner rest => exact hg.elim

end Group.Alternates

/-- Some alternating group starts with these tokens. -/
def Begins (turn : Turn) (tokens : List Token) : Prop :=
  ∃ (g : Group Statement) (more : List Token),
    g.Alternates turn ∧ g.tokens = tokens ++ more

/-- No alternating group, with what may stand behind it, goes on from these
tokens with that one. -/
def Bars (turn : Turn) (tokens : List Token) (token : Token) : Prop :=
  ∀ (g : Group Statement) (after more : List Token), g.Alternates turn →
    EndsGroup after → g.tokens ++ after ≠ tokens ++ token :: more

/-! ## What can be read -/

theorem begins_item : Begins .item [] :=
  ⟨.statement ⟨.reference "", "", none⟩ .empty, _, trivial, rfl⟩

theorem begins_connective : Begins .connective [] :=
  ⟨.empty, [], trivial, rfl⟩

theorem begins_operand (x : Operand) : Begins .item [x.token] :=
  ⟨.statement ⟨x, "", none⟩ .empty, _, trivial, rfl⟩

theorem Begins.statement {rest : List Token} (hrest : Begins .connective rest)
    (s : Statement) : Begins .item (s.tokens ++ rest) := by
  obtain ⟨g, more, hg, htokens⟩ := hrest
  refine ⟨.statement s g, more, hg, ?_⟩
  rw [Group.tokens, htokens, List.append_assoc]

theorem begins_operator (x : Operand) (operator : String) :
    Begins .item [x.token, .reference operator] := by
  have hstatement := begins_connective.statement ⟨x, operator, none⟩
  simpa [Statement.tokens_eq] using hstatement

theorem Begins.nested {inner : List Token} (hinner : Begins .item inner) :
    Begins .item (.groupBegin :: inner) := by
  obtain ⟨g, more, hg, htokens⟩ := hinner
  refine ⟨.nested g .empty, more ++ [.groupEnd], ⟨hg, trivial⟩, ?_⟩
  simp [Group.tokens, htokens]

theorem Begins.closed {inner : Group Statement} {rest : List Token}
    (hrest : Begins .connective rest) (hinner : inner.Alternates .item) :
    Begins .item (.groupBegin :: (inner.tokens ++ .groupEnd :: rest)) := by
  obtain ⟨g, more, hg, htokens⟩ := hrest
  refine ⟨.nested inner g, more, ⟨hinner, hg⟩, ?_⟩
  simp [Group.tokens, htokens]

theorem Begins.connective {rest : List Token} (hrest : Begins .item rest)
    (c : Connective) : Begins .connective (.connective c :: rest) := by
  obtain ⟨g, more, hg, htokens⟩ := hrest
  refine ⟨.connective c g, more, hg, ?_⟩
  rw [Group.tokens, htokens, List.cons_append]

/-- A whole group, with more behind it, is such a beginning. -/
theorem begins_tokens {g : Group Statement} {turn : Turn}
    (hg : g.Alternates turn) : Begins turn g.tokens :=
  ⟨g, [], hg, (List.append_nil _).symm⟩

/-! ## What cannot come next -/

theorem bars_operand {token : Token} (hoperand : token.operand? = none)
    (hopen : token ≠ .groupBegin) : Bars .item [] token := by
  intro g after more hg hafter heq
  rcases hg.item_cases with ⟨s, rest, rfl, hrest⟩ | ⟨inner, rest, rfl, -, -⟩
  · rw [Group.tokens, Statement.tokens_eq] at heq
    have hhead : s.left.token = token := (List.cons.inj heq).1
    rw [Token.operand?_eq_some_iff.mpr hhead.symm] at hoperand
    cases hoperand
  · have hhead : Token.groupBegin = token := (List.cons.inj heq).1
    exact hopen hhead.symm

theorem bars_operator {x : Operand} {token : Token}
    (hword : token.word? = none) : Bars .item [x.token] token := by
  intro g after more hg hafter heq
  rcases hg.item_cases with ⟨s, rest, rfl, hrest⟩ | ⟨inner, rest, rfl, -, -⟩
  · rw [Group.tokens, Statement.tokens_eq] at heq
    have hsecond : Token.reference s.operator = token :=
      (List.cons.inj (List.cons.inj heq).2).1
    rw [Token.word?_eq_some_iff.mpr hsecond.symm] at hword
    cases hword
  · have hhead : Token.groupBegin = x.token := (List.cons.inj heq).1
    cases x <;> cases hhead

theorem bars_connective {token : Token} (hends : token.endsStatement = false) :
    Bars .connective [] token := by
  intro g after more hg hafter heq
  rcases hg.connective_cases with rfl | ⟨c, rest, rfl, -⟩
  · have hhead : after = token :: more := heq
    rw [hafter token (by simp [hhead])] at hends
    cases hends
  · have hhead : Token.connective c = token := (List.cons.inj heq).1
    rw [← hhead] at hends
    cases hends

/-- Behind the operator stands an operand, or what ends a statement. -/
theorem bars_right {x : Operand} {operator : String} {token : Token}
    (hoperand : token.operand? = none) (hends : token.endsStatement = false) :
    Bars .item [x.token, .reference operator] token := by
  intro g after more hg hafter heq
  rcases hg.item_cases with ⟨s, rest, rfl, hrest⟩ | ⟨inner, rest, rfl, -, -⟩
  · rw [Group.tokens, Statement.tokens_eq] at heq
    have htail : (s.right.map Operand.token).toList ++ rest.tokens ++ after =
        token :: more := (List.cons.inj (List.cons.inj heq).2).2
    cases hright : s.right with
    | none =>
      have hfollow : rest.tokens ++ after = token :: more := by
        simpa [hright] using htail
      exact bars_connective hends rest after more hrest hafter hfollow
    | some y =>
      rw [hright] at htail
      have hhead : y.token = token := (List.cons.inj htail).1
      rw [Token.operand?_eq_some_iff.mpr hhead.symm] at hoperand
      cases hoperand
  · have hhead : Token.groupBegin = x.token := (List.cons.inj heq).1
    cases x <;> cases hhead

/-- A statement without a right operand has to be at its end. -/
theorem Bars.statement {s : Statement} {tokens : List Token} {token : Token}
    (hbars : Bars .connective tokens token)
    (hends : s.right = none → EndsStatement (tokens ++ [token])) :
    Bars .item (s.tokens ++ tokens) token := by
  intro g after more hg hafter heq
  rw [List.append_assoc] at heq
  rcases hg.item_cases with ⟨t, rest, rfl, hrest⟩ | ⟨inner, rest, rfl, -, -⟩
  · rw [Group.tokens, List.append_assoc] at heq
    have hfollow : s.right = none →
        EndsStatement (tokens ++ token :: more) := by
      intro hright
      have hhead := hends hright
      cases tokens <;> simpa [EndsStatement] using hhead
    have hstop : EndsStatement (rest.tokens ++ after) :=
      Group.endsStatement_tokens_append hrest hafter
    obtain ⟨-, htail⟩ :=
      Statement.tokens_append_injective (fun _ => hstop) hfollow heq
    exact hbars rest after more hrest hafter htail
  · exact s.tokens_append_ne_groupBegin _ _ heq.symm

theorem Bars.nested {tokens : List Token} {token : Token}
    (hbars : Bars .item tokens token) :
    Bars .item (.groupBegin :: tokens) token := by
  intro g after more hg hafter heq
  rcases hg.item_cases with ⟨s, rest, rfl, -⟩ | ⟨inner, rest, rfl, hinner, -⟩
  · rw [Group.tokens, List.append_assoc] at heq
    exact s.tokens_append_ne_groupBegin _ _ heq
  · simp only [Group.tokens, List.cons_append, List.append_assoc,
      List.cons.injEq, true_and] at heq
    exact hbars inner _ more hinner (endsGroup_groupEnd _) heq

theorem Bars.closed {group : Group Statement} {tokens : List Token}
    {token : Token} (hbars : Bars .connective tokens token)
    (hgroup : group.Alternates .item) :
    Bars .item (.groupBegin :: (group.tokens ++ .groupEnd :: tokens))
      token := by
  intro g after more hg hafter heq
  rcases hg.item_cases with
    ⟨s, rest, rfl, -⟩ | ⟨inner, rest, rfl, hinner, hrest⟩
  · rw [Group.tokens, List.append_assoc] at heq
    exact s.tokens_append_ne_groupBegin _ _ heq
  · simp only [Group.tokens, List.cons_append, List.append_assoc,
      List.cons.injEq, true_and] at heq
    obtain ⟨-, hclosed⟩ := Group.tokens_append_injective hinner hgroup
      (endsGroup_groupEnd _) (endsGroup_groupEnd _) heq
    exact hbars rest after more hrest hafter (List.cons.inj hclosed).2

theorem Bars.connective {tokens : List Token} {token : Token}
    (hbars : Bars .item tokens token) (c : Connective) :
    Bars .connective (.connective c :: tokens) token := by
  intro g after more hg hafter heq
  rcases hg.connective_cases with rfl | ⟨d, rest, rfl, hrest⟩
  · have hhead : after = .connective c :: (tokens ++ token :: more) := heq
    rw [hhead] at hafter
    exact not_endsGroup_connective c _ hafter
  · have htail : rest.tokens ++ after = tokens ++ token :: more :=
      (List.cons.inj heq).2
    exact hbars rest after more hrest hafter htail

/-! ## Whole filters -/

theorem Begins.isBeginning {tokens : List Token}
    (hbegins : Begins .item tokens) : IsBeginning tokens := by
  obtain ⟨g, more, hg, htokens⟩ := hbegins
  exact isBeginning_iff.mpr ⟨g, more, .inr hg, htokens⟩

theorem not_isBeginning_of_forall {tokens : List Token} {token : Token}
    (hnone : ∀ (g : Group Statement) (more : List Token), g.Alternates .item →
      g.tokens ++ [] ≠ tokens ++ token :: more) :
    ¬ IsBeginning (tokens ++ [token]) := by
  intro hbeginning
  obtain ⟨g, more, hg, htokens⟩ := isBeginning_iff.mp hbeginning
  rcases hg with rfl | hg
  · simp [Group.tokens] at htokens
  · refine hnone g more hg ?_
    simpa using htokens

theorem endsGroup_nil : EndsGroup [] := by
  simp [EndsGroup]

theorem Bars.not_isBeginning {tokens : List Token} {token : Token}
    (hbars : Bars .item tokens token) : ¬ IsBeginning (tokens ++ [token]) := by
  apply not_isBeginning_of_forall
  intro g more hg
  exact hbars g [] more hg endsGroup_nil

/-- Behind a group that is not nested there is nothing to close. -/
theorem not_isBeginning_groupEnd {g : Group Statement}
    (hg : g.Alternates .item) : ¬ IsBeginning (g.tokens ++ [.groupEnd]) := by
  apply not_isBeginning_of_forall
  intro h more hh heq
  obtain ⟨-, hmore⟩ := Group.tokens_append_injective hh hg endsGroup_nil
    (endsGroup_groupEnd more) heq
  cases hmore

end FilterLanguage
