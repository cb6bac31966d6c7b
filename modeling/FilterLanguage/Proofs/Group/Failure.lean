import FilterLanguage.Proofs.Group.Beginning
import FilterLanguage.Proofs.Group.Parsing
import FilterLanguage.Proofs.Token.Position

/-!
# Where the parser fails

When a run fails, what it has read is the beginning of a group, and the error is
about what lies next: a fault of the scanner, a token that cannot come next, or
the end of input.  This is said relative to the turn, and carried from there to
the group around it.
-/

namespace FilterLanguage

namespace ParseErrorKind

/-- The error tells what is missing in some place. -/
def isExpectation : ParseErrorKind → Bool
  | .expectedOperand | .expectedOperator | .expectedConnective => true
  | _ => false

/-- The error may lie in a token that is well formed by itself. -/
def blamesToken (kind : ParseErrorKind) : Bool :=
  kind.isExpectation || kind == .unmatchedGroupEnd

theorem blamesToken_of_isExpectation {kind : ParseErrorKind}
    (hkind : kind.isExpectation = true) : kind.blamesToken = true := by
  simp [blamesToken, hkind]

end ParseErrorKind

/-- What lies next is what the error is about.  A token has to be `barred`. -/
def Ahead.Blames (limit : Nat) (barred : Token → Prop) (e : ParseError) :
    Ahead → Prop
  | .fault first => first = e
  | .lexeme found _ =>
    e.kind.blamesToken = true ∧ e.span = found.span ∧ barred found.token
  | .ended =>
    e.kind = .unclosedGroup ∨
      e.kind.isExpectation = true ∧ e.span = .point limit

theorem Ahead.Blames.mono {limit : Nat} {barred barred' : Token → Prop}
    {e : ParseError} {ahead : Ahead} (hblames : ahead.Blames limit barred e)
    (hbarred : ∀ found rest, ahead = .lexeme found rest →
      barred found.token → barred' found.token) :
    ahead.Blames limit barred' e := by
  cases ahead with
  | ended => exact hblames
  | fault first => exact hblames
  | lexeme found rest =>
    obtain ⟨hkind, hspan, hfound⟩ := hblames
    exact ⟨hkind, hspan, hbarred found rest rfl hfound⟩

theorem Ahead.yields_singleton {rest : Ahead} {found : Lexeme} {token : Token}
    (htoken : found.token = token) :
    (lexeme found rest).Yields [token] rest :=
  ⟨htoken, yields_nil_iff.mpr rfl⟩

theorem Ahead.EndsStatement.endsStatement_tokens {ahead rest : Ahead}
    {tokens : List Token} {found : Lexeme} (hends : ahead.EndsStatement)
    (hyields : ahead.Yields tokens (.lexeme found rest)) :
    FilterLanguage.EndsStatement (tokens ++ [found.token]) := by
  have hall : ahead.Yields (tokens ++ [found.token]) rest :=
    Ahead.yields_append_iff.mpr
      ⟨_, hyields, rfl, Ahead.yields_nil_iff.mpr rfl⟩
  intro token htoken
  cases htokens : tokens ++ [found.token] with
  | nil => simp at htokens
  | cons first more =>
    rw [htokens] at hall htoken
    obtain ⟨next, behind, rfl, hnext, -⟩ := Ahead.yields_cons_iff.mp hall
    obtain rfl : first = token := by simpa using htoken
    rw [← hnext]
    exact hends

/-- What lies next is what the error of a statement is about. -/
inductive Ahead.Offends (stop : Nat) (barred : Token → Prop) (e : ParseError) :
    Ahead → Prop
  | fault : Offends stop barred e (.fault e)
  | token {found : Lexeme} {rest : Ahead} (hkind : e.kind.isExpectation = true)
      (hspan : e.span = found.span) (hfound : barred found.token) :
      Offends stop barred e (.lexeme found rest)
  | ended (hkind : e.kind.isExpectation = true)
      (hspan : e.span = .point stop) : Offends stop barred e .ended

theorem Ahead.Offends.blames {stop : Nat} {barred : Token → Prop}
    {e : ParseError} {ahead : Ahead} (hoffends : ahead.Offends stop barred e) :
    ahead.Blames stop barred e := by
  cases hoffends with
  | fault => rfl
  | token hkind hspan hfound =>
    exact ⟨ParseErrorKind.blamesToken_of_isExpectation hkind, hspan, hfound⟩
  | ended hkind hspan => exact .inr ⟨hkind, hspan⟩

theorem Ahead.Offends.mono {stop : Nat} {barred barred' : Token → Prop}
    {e : ParseError} {ahead : Ahead} (hoffends : ahead.Offends stop barred e)
    (hbarred : ∀ found rest, ahead = .lexeme found rest →
      barred found.token → barred' found.token) :
    ahead.Offends stop barred' e := by
  cases hoffends with
  | fault => exact .fault
  | token hkind hspan hfound =>
    exact .token hkind hspan (hbarred _ _ rfl hfound)
  | ended hkind hspan => exact .ended hkind hspan

/-- The error is about what lies behind the beginning of a group. -/
def Ahead.FailsAt (stop : Nat) (turn : Turn) (e : ParseError) (ahead : Ahead) :
    Prop :=
  ∃ before rest, ahead.Yields before rest ∧ Begins turn before ∧
    rest.Blames stop (Bars turn before) e

namespace Ahead

variable {stop : Nat} {e : ParseError} {ahead : Ahead}

namespace FailsAt

variable {later : Ahead}

theorem of_fault {turn : Turn} (e : ParseError) : (fault e).FailsAt stop turn e := by
  have hbegins : Begins turn [] := by
    cases turn with
    | item => exact begins_item
    | connective => exact begins_connective
  exact ⟨[], .fault e, yields_nil_iff.mpr rfl, hbegins, rfl⟩

/-- An error behind some tokens is an error of the group that these begin. -/
theorem behind {turn turn' : Turn} {front : List Token}
    (hfails : later.FailsAt stop turn' e) (hyields : ahead.Yields front later)
    (hbegins : ∀ tokens, Begins turn' tokens → Begins turn (front ++ tokens))
    (hbars : ∀ tokens found rest, later.Yields tokens (.lexeme found rest) →
      Bars turn' tokens found.token → Bars turn (front ++ tokens) found.token) :
    ahead.FailsAt stop turn e := by
  obtain ⟨before, rest, hbefore, hbegin, hblames⟩ := hfails
  refine ⟨front ++ before, rest, ?_, hbegins before hbegin, ?_⟩
  · exact yields_append_iff.mpr ⟨later, hyields, hbefore⟩
  · apply hblames.mono
    intro found follow hrest
    rw [hrest] at hbefore
    exact hbars before found follow hbefore

/-- At the end of input a nested group is still open. -/
theorem unclosed {inner : Group Statement} (hinner : inner.Alternates .item)
    (hyields : ahead.Yields ([.groupBegin] ++ inner.tokens) .ended)
    (hkind : e.kind = .unclosedGroup) : ahead.FailsAt stop .item e :=
  ⟨_, .ended, hyields, (begins_tokens hinner).nested, .inl hkind⟩

theorem nested (hfails : later.FailsAt stop .item e)
    (hyields : ahead.Yields [.groupBegin] later) : ahead.FailsAt stop .item e := by
  apply hfails.behind hyields
  · intro tokens hbegins
    exact hbegins.nested
  · intro tokens found rest _ hbars
    exact hbars.nested

theorem closed {inner : Group Statement}
    (hfails : later.FailsAt stop .connective e) (hinner : inner.Alternates .item)
    (hyields : ahead.Yields ([.groupBegin] ++ inner.tokens ++ [.groupEnd])
      later) : ahead.FailsAt stop .item e := by
  apply hfails.behind hyields
  · intro tokens hbegins
    simpa using hbegins.closed hinner
  · intro tokens found rest _ hbars
    simpa using hbars.closed hinner

theorem statement {s : Statement} (hfails : later.FailsAt stop .connective e)
    (hyields : ahead.Yields s.tokens later)
    (hends : s.right = none → later.EndsStatement) :
    ahead.FailsAt stop .item e := by
  apply hfails.behind hyields
  · intro tokens hbegins
    exact hbegins.statement s
  · intro tokens found rest hrest hbars
    apply hbars.statement
    intro hright
    exact (hends hright).endsStatement_tokens hrest

theorem connective {c : Connective} (hfails : later.FailsAt stop .item e)
    (hyields : ahead.Yields [.connective c] later) :
    ahead.FailsAt stop .connective e := by
  apply hfails.behind hyields
  · intro tokens hbegins
    exact hbegins.connective c
  · intro tokens found rest _ hbars
    exact hbars.connective c

end FailsAt

/-! ## Statements -/

theorem expect_error {α : Type} {kind : ParseErrorKind}
    {read? : Token → Option α} (hexpect : ahead.expect stop kind read? = .error e)
    (hkind : kind.isExpectation = true) :
    ahead.Offends stop (fun token => read? token = none) e := by
  cases ahead with
  | ended =>
    cases hexpect
    exact .ended hkind rfl
  | fault first =>
    cases hexpect
    exact .fault
  | lexeme found rest =>
    simp only [expect] at hexpect
    split at hexpect
    next => cases hexpect
    next hread =>
      cases hexpect
      exact .token hkind rfl hread

theorem rightOperand_error (hright : ahead.rightOperand stop = .error e) :
    ahead.Offends stop
      (fun token => token.operand? = none ∧ token.endsStatement = false) e := by
  cases ahead with
  | ended => cases hright
  | fault first =>
    cases hright
    exact .fault
  | lexeme found rest =>
    simp only [rightOperand] at hright
    split at hright
    next => cases hright
    next hends =>
      split at hright
      next first hexpect =>
        cases hright
        apply (expect_error hexpect rfl).mono
        intro found' rest' hfound hoperand
        cases hfound
        exact ⟨hoperand, by simpa using hends⟩
      next => cases hright

theorem statement_error (hstatement : ahead.statement stop = .error e)
    (hopens : ahead.opensGroup = false) :
    ∃ before rest, ahead.Yields before rest ∧ Begins .item before ∧
      rest.Offends stop (Bars .item before) e := by
  unfold statement at hstatement
  split at hstatement
  next first hleft =>
    cases hstatement
    refine ⟨[], ahead, yields_nil_iff.mpr rfl, begins_item, ?_⟩
    apply (expect_error hleft rfl).mono
    rintro found rest rfl hoperand
    exact bars_operand hoperand (of_decide_eq_false hopens)
  next left ahead₁ hleft =>
    obtain ⟨found₁, rfl, hread₁⟩ := expect_eq_ok_iff.mp hleft
    have hyields₁ : (lexeme found₁ ahead₁).Yields [left.token] ahead₁ :=
      yields_singleton (Token.operand?_eq_some_iff.mp hread₁)
    split at hstatement
    next first hoperator =>
      cases hstatement
      refine ⟨_, ahead₁, hyields₁, begins_operand left, ?_⟩
      apply (expect_error hoperator rfl).mono
      intro found rest hahead hword
      exact bars_operator hword
    next operator ahead₂ hoperator =>
      obtain ⟨found₂, rfl, hread₂⟩ := expect_eq_ok_iff.mp hoperator
      have hyields₂ : (lexeme found₂ ahead₂).Yields [.reference operator]
          ahead₂ := yields_singleton (Token.word?_eq_some_iff.mp hread₂)
      split at hstatement
      next first hright =>
        cases hstatement
        refine ⟨[left.token] ++ [.reference operator], ahead₂, ?_,
          begins_operator left operator, ?_⟩
        · exact yields_append_iff.mpr ⟨_, hyields₁, hyields₂⟩
        · apply (rightOperand_error hright).mono
          rintro found rest hahead ⟨hoperand, hends⟩
          exact bars_right hoperand hends
      next => cases hstatement

end Ahead

/-! ## Groups -/

theorem Fails.failsAt {limit : Option Nat} {stop depth : Nat} {turn : Turn}
    {ahead : Ahead} {e : ParseError}
    (hfails : Fails limit stop turn depth ahead (.parse e)) :
    ahead.FailsAt stop turn e := by
  generalize herror : Error.parse e = error at hfails
  induction hfails with
  | tooDeep => cases herror
  | inside hfirst _ _ ih =>
    exact (ih herror).nested (Ahead.yields_singleton hfirst)
  | unclosed hfirst _ hinner =>
    cases herror
    exact .unclosed hinner.alternates ⟨hfirst, hinner.yields⟩ rfl
  | behindNested hfirst _ hinner hclose _ ih =>
    refine (ih herror).closed hinner.alternates ?_
    refine Ahead.yields_append_iff.mpr ⟨_, ⟨hfirst, hinner.yields⟩, ?_⟩
    exact Ahead.yields_singleton hclose
  | statement hopens hstatement =>
    cases herror
    obtain ⟨before, rest, hyields, hbegins, hoffends⟩ :=
      Ahead.statement_error hstatement hopens
    exact ⟨before, rest, hyields, hbegins, hoffends.blames⟩
  | behindStatement hyields hends _ ih =>
    exact (ih herror).statement hyields hends
  | fault =>
    cases herror
    exact .of_fault e
  | noConnective hfound =>
    cases herror
    exact ⟨[], _, Ahead.yields_nil_iff.mpr rfl, begins_connective, rfl, rfl,
      bars_connective hfound⟩
  | behindConnective hfound _ ih =>
    exact (ih herror).connective (Ahead.yields_singleton hfound)

/-! ## Whole filters -/

theorem Comes.blames {limit : Option Nat} {stop : Nat} {ahead : Ahead}
    {e : ParseError} (hcomes : Comes limit stop ahead (.error (.parse e))) :
    ∃ before rest, ahead.Yields before rest ∧ IsBeginning before ∧
      rest.Blames stop (fun token => ¬ IsBeginning (before ++ [token])) e := by
  cases hcomes with
  | @unopened found rest hfound =>
    have hoperand : found.token.operand? = none := by rw [hfound]; rfl
    have hopen : found.token ≠ .groupBegin := by rw [hfound]; simp
    exact ⟨[], _, Ahead.yields_nil_iff.mpr rfl, begins_item.isBeginning, rfl,
      rfl, (bars_operand hoperand hopen).not_isBeginning⟩
  | @extra _ rest g found hparses =>
    have halternates := hparses.alternates
    have htoken : found.token = .groupEnd := hparses.endsGroup
    refine ⟨g.tokens, _, hparses.yields, (begins_tokens halternates).isBeginning,
      rfl, rfl, ?_⟩
    rw [htoken]
    exact not_isBeginning_groupEnd halternates
  | fails hends hfails =>
    obtain ⟨before, rest, hyields, hbegins, hblames⟩ := hfails.failsAt
    refine ⟨before, rest, hyields, hbegins.isBeginning, ?_⟩
    apply hblames.mono
    intro found follow _ hbars
    exact hbars.not_isBeginning

theorem Parser.root_error {limit : Option Nat} {feed : Feed} {e : ParseError}
    (hroot : root limit feed = .error (.parse e)) :
    ∃ before rest, feed.ahead.Yields before rest ∧ IsBeginning before ∧
      rest.Blames feed.limit
        (fun token => ¬ IsBeginning (before ++ [token])) e := by
  have hcomes := root_comes limit feed
  rw [hroot] at hcomes
  exact hcomes.blames

end FilterLanguage
