import FilterLanguage.Proofs.Group.Grammar

/-!
# Sentences

The grammar of filters, said of token lists alone.  A sentence is empty or
derived from the grammar; these are the token lists of the groups that are
filters.  A beginning is what some sentence starts with.
-/

namespace FilterLanguage

/-- The phrases of the grammar. -/
inductive Phrase where
  | group
  | element
  | statement

inductive Derives : Phrase → List Token → Prop
  | unary {left : Token} (hleft : left.isOperand = true) (operator : String) :
      Derives .statement [left, .reference operator]
  | binary {left right : Token} (hleft : left.isOperand = true)
      (operator : String) (hright : right.isOperand = true) :
      Derives .statement [left, .reference operator, right]
  | statement {tokens : List Token} (hstatement : Derives .statement tokens) :
      Derives .element tokens
  | nested {tokens : List Token} (hgroup : Derives .group tokens) :
      Derives .element (.groupBegin :: (tokens ++ [.groupEnd]))
  | single {tokens : List Token} (helement : Derives .element tokens) :
      Derives .group tokens
  | joined {tokens rest : List Token} (helement : Derives .element tokens)
      (c : Connective) (hrest : Derives .group rest) :
      Derives .group (tokens ++ .connective c :: rest)

/-- The tokens of a whole filter. -/
def IsSentence (tokens : List Token) : Prop :=
  tokens = [] ∨ Derives .group tokens

/-- Some sentence starts with these tokens. -/
def IsBeginning (tokens : List Token) : Prop :=
  ∃ sentence, IsSentence sentence ∧ tokens <+: sentence

theorem Token.isOperand_iff {token : Token} :
    token.isOperand = true ↔ ∃ x : Operand, token = x.token := by
  constructor
  · intro hoperand
    cases token with
    | literal value => exact ⟨.literal value, rfl⟩
    | reference name => exact ⟨.reference name, rfl⟩
    | connective c => simp [isOperand] at hoperand
    | groupBegin => simp [isOperand] at hoperand
    | groupEnd => simp [isOperand] at hoperand
  · rintro ⟨x, rfl⟩
    cases x <;> rfl

theorem Operand.isOperand_token (x : Operand) : x.token.isOperand = true :=
  Token.isOperand_iff.mpr ⟨x, rfl⟩

theorem Statement.derives_tokens (s : Statement) :
    Derives .statement s.tokens := by
  rw [Statement.tokens_eq]
  cases s.right with
  | none => exact .unary s.left.isOperand_token s.operator
  | some x => exact .binary s.left.isOperand_token s.operator x.isOperand_token

namespace Group

theorem tokens_append (g h : Group Statement) :
    (g.append h).tokens = g.tokens ++ h.tokens := by
  induction g with
  | empty => rfl
  | statement s rest ih => simp [append, tokens, ih]
  | connective c rest ih => simp [append, tokens, ih]
  | nested inner rest ihInner ihRest => simp [append, tokens, ihRest]

theorem Alternates.append {α : Type} {g h : Group α} {turn : Turn}
    (hg : g.Alternates turn) (hh : h.Alternates .connective) :
    (g.append h).Alternates turn := by
  induction g generalizing turn with
  | empty =>
    cases turn with
    | item => exact hg.elim
    | connective => exact hh
  | statement s rest ih =>
    cases turn with
    | item => exact ih hg
    | connective => exact hg.elim
  | connective c rest ih =>
    cases turn with
    | item => exact hg.elim
    | connective => exact ih hg
  | nested inner rest ihInner ihRest =>
    cases turn with
    | item => exact ⟨hg.1, ihRest hg.2⟩
    | connective => exact hg.elim

end Group

/-- What the grammar derives from here on: a group, or what may follow an
element up to the end of its group. -/
def DerivesFrom : Turn → List Token → Prop
  | .item, tokens => Derives .group tokens
  | .connective, tokens =>
    tokens = [] ∨ ∃ c rest, tokens = .connective c :: rest ∧
      Derives .group rest

theorem DerivesFrom.group {element rest : List Token}
    (hrest : DerivesFrom .connective rest)
    (helement : Derives .element element) : Derives .group (element ++ rest) := by
  rcases hrest with rfl | ⟨c, follow, rfl, hfollow⟩
  · rw [List.append_nil]
    exact .single helement
  · exact .joined helement c hfollow

namespace Group

theorem Alternates.derivesFrom {g : Group Statement} {turn : Turn}
    (hg : g.Alternates turn) : DerivesFrom turn g.tokens := by
  induction g generalizing turn with
  | empty =>
    cases turn with
    | item => exact hg.elim
    | connective => exact .inl rfl
  | statement s rest ih =>
    cases turn with
    | item =>
      have hrest : DerivesFrom .connective rest.tokens := ih hg
      exact hrest.group (.statement s.derives_tokens)
    | connective => exact hg.elim
  | connective c rest ih =>
    cases turn with
    | item => exact hg.elim
    | connective =>
      have hrest : DerivesFrom .item rest.tokens := ih hg
      exact .inr ⟨c, rest.tokens, rfl, hrest⟩
  | nested inner rest ihInner ihRest =>
    cases turn with
    | item =>
      have hinner : DerivesFrom .item inner.tokens := ihInner hg.1
      have hrest : DerivesFrom .connective rest.tokens := ihRest hg.2
      have hgroup := hrest.group (.nested hinner)
      rw [List.cons_append, List.append_assoc] at hgroup
      exact hgroup
    | connective => exact hg.elim

theorem exists_of_derives {phrase : Phrase} {tokens : List Token}
    (hderives : Derives phrase tokens) :
    ∃ g : Group Statement, g.Alternates .item ∧ g.tokens = tokens := by
  induction hderives with
  | @unary left hleft operator =>
    obtain ⟨x, rfl⟩ := Token.isOperand_iff.mp hleft
    exact ⟨.statement ⟨x, operator, none⟩ .empty, trivial, rfl⟩
  | @binary left right hleft operator hright =>
    obtain ⟨x, rfl⟩ := Token.isOperand_iff.mp hleft
    obtain ⟨y, rfl⟩ := Token.isOperand_iff.mp hright
    exact ⟨.statement ⟨x, operator, some y⟩ .empty, trivial, rfl⟩
  | statement hstatement ih => exact ih
  | nested hgroup ih =>
    obtain ⟨inner, hinner, rfl⟩ := ih
    exact ⟨.nested inner .empty, ⟨hinner, trivial⟩, rfl⟩
  | single helement ih => exact ih
  | joined helement c hrest ihElement ihRest =>
    obtain ⟨g, hg, rfl⟩ := ihElement
    obtain ⟨h, hh, rfl⟩ := ihRest
    have hfollow : (Group.connective c h).Alternates .connective := hh
    exact ⟨g.append (.connective c h), hg.append hfollow,
      g.tokens_append (.connective c h)⟩

end Group

/-- The sentences are the token lists of the filters. -/
theorem isSentence_iff {tokens : List Token} :
    IsSentence tokens ↔ ∃ g : Group Statement, g.IsFilter ∧ g.tokens = tokens := by
  constructor
  · rintro (rfl | hderives)
    · exact ⟨.empty, .inl rfl, rfl⟩
    · obtain ⟨g, hg, htokens⟩ := Group.exists_of_derives hderives
      exact ⟨g, .inr hg, htokens⟩
  · rintro ⟨g, rfl | hg, rfl⟩
    · exact .inl rfl
    · exact .inr hg.derivesFrom

theorem isBeginning_iff {tokens : List Token} :
    IsBeginning tokens ↔ ∃ (g : Group Statement) (more : List Token),
      g.IsFilter ∧ g.tokens = tokens ++ more := by
  constructor
  · rintro ⟨sentence, hsentence, more, rfl⟩
    obtain ⟨g, hg, htokens⟩ := isSentence_iff.mp hsentence
    exact ⟨g, more, hg, htokens⟩
  · rintro ⟨g, more, hg, htokens⟩
    exact ⟨g.tokens, isSentence_iff.mpr ⟨g, hg, rfl⟩, more, htokens.symm⟩

end FilterLanguage
