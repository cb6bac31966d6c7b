import FilterLanguage.Proofs.Group.Grammar
import FilterLanguage.Proofs.Token.Position

/-!
# Reading a statement

How a statement is read depends on the lexemes ahead and on the size of the text
only, and not on whether one of them was looked at before.  It succeeds where
the tokens of the statement lie next, unless a right operand might follow a
unary one.
-/

namespace FilterLanguage

namespace Ahead

/-- No right operand can follow. -/
def EndsStatement : Ahead → Prop
  | .ended => True
  | .fault _ => False
  | .lexeme found _ => found.token.endsStatement = true

/-- No element and no connective can follow. -/
def EndsGroup : Ahead → Prop
  | .ended => True
  | .fault _ => False
  | .lexeme found _ => found.token = .groupEnd

theorem EndsGroup.endsStatement {ahead : Ahead} (hend : ahead.EndsGroup) :
    ahead.EndsStatement := by
  cases ahead with
  | ended => trivial
  | fault e => exact hend.elim
  | lexeme found rest =>
    have htoken : found.token = .groupEnd := hend
    simp [EndsStatement, htoken, Token.endsStatement]

/-- A nested group lies next. -/
def opensGroup : Ahead → Bool
  | .lexeme first _ => first.token = .groupBegin
  | _ => false

def expect {α : Type} (stop : Nat) (kind : ParseErrorKind)
    (read? : Token → Option α) : Ahead → Except ParseError (α × Ahead)
  | .ended => .error (.found kind (.point stop) "end of input")
  | .fault e => .error e
  | .lexeme found rest =>
    match read? found.token with
    | some value => .ok (value, rest)
    | none => .error (.found kind found.span found.token.describe)

def rightOperand (stop : Nat) : Ahead → Except ParseError (Option Operand × Ahead)
  | .ended => .ok (none, .ended)
  | .fault e => .error e
  | .lexeme found rest =>
    if found.token.endsStatement then .ok (none, .lexeme found rest)
    else
      match (lexeme found rest).expect stop .expectedOperand Token.operand? with
      | .error e => .error e
      | .ok (right, after) => .ok (some right, after)

def statement (stop : Nat) (ahead : Ahead) :
    Except ParseError (Statement × Ahead) :=
  match ahead.expect stop .expectedOperand Token.operand? with
  | .error e => .error e
  | .ok (left, ahead₁) =>
    match ahead₁.expect stop .expectedOperator Token.word? with
    | .error e => .error e
    | .ok (operator, ahead₂) =>
      match ahead₂.rightOperand stop with
      | .error e => .error e
      | .ok (right, ahead₃) => .ok (⟨left, operator, right⟩, ahead₃)

theorem expect_eq_ok_iff {α : Type} {stop : Nat} {kind : ParseErrorKind}
    {read? : Token → Option α} {ahead after : Ahead} {value : α} :
    ahead.expect stop kind read? = .ok (value, after) ↔
      ∃ found, ahead = .lexeme found after ∧ read? found.token = some value := by
  cases ahead with
  | ended => simp [expect]
  | fault e => simp [expect]
  | lexeme found rest =>
    cases hread : read? found.token <;> simp [expect, hread, and_comm]

theorem yields_of_rightOperand {stop : Nat} {ahead after : Ahead}
    {right : Option Operand}
    (hright : ahead.rightOperand stop = .ok (right, after)) :
    ahead.Yields (right.map Operand.token).toList after ∧
      (right = none → after.EndsStatement) := by
  cases ahead with
  | ended =>
    cases hright
    exact ⟨yields_nil_iff.mpr rfl, fun _ => trivial⟩
  | fault e => cases hright
  | lexeme found rest =>
    simp only [rightOperand] at hright
    split at hright
    next hends =>
      cases hright
      exact ⟨yields_nil_iff.mpr rfl, fun _ => hends⟩
    next =>
      split at hright
      next => cases hright
      next x behind hexpect =>
        cases hright
        obtain ⟨found', hfound, hread⟩ := expect_eq_ok_iff.mp hexpect
        cases hfound
        have htoken := Token.operand?_eq_some_iff.mp hread
        exact ⟨⟨htoken, yields_nil_iff.mpr rfl⟩, by simp⟩

theorem rightOperand_of_yields (stop : Nat) {ahead after : Ahead}
    {right : Option Operand}
    (hyields : ahead.Yields (right.map Operand.token).toList after)
    (hends : right = none → after.EndsStatement) :
    ahead.rightOperand stop = .ok (right, after) := by
  cases right with
  | none =>
    obtain rfl := yields_nil_iff.mp hyields
    have hahead := hends rfl
    cases ahead with
    | ended => rfl
    | fault e => exact hahead.elim
    | lexeme found rest => exact if_pos hahead
  | some x =>
    obtain ⟨found, behind, rfl, htoken, hbehind⟩ := yields_cons_iff.mp hyields
    obtain rfl := yields_nil_iff.mp hbehind
    have hread : x.token.operand? = some x :=
      Token.operand?_eq_some_iff.mpr rfl
    simp [rightOperand, expect, htoken, hread]

/-- A statement is read just where its tokens lie next, and where no right
operand follows a unary one. -/
theorem statement_eq_ok_iff {stop : Nat} {ahead after : Ahead} {s : Statement} :
    ahead.statement stop = .ok (s, after) ↔
      ahead.Yields s.tokens after ∧ (s.right = none → after.EndsStatement) := by
  rw [Statement.tokens_eq]
  constructor
  · intro hstatement
    unfold statement at hstatement
    split at hstatement
    next => cases hstatement
    next left ahead₁ hleft =>
      split at hstatement
      next => cases hstatement
      next operator ahead₂ hoperator =>
        split at hstatement
        next => cases hstatement
        next right ahead₃ hright =>
          cases hstatement
          obtain ⟨found₁, rfl, hread₁⟩ := expect_eq_ok_iff.mp hleft
          obtain ⟨found₂, rfl, hread₂⟩ := expect_eq_ok_iff.mp hoperator
          obtain ⟨hyields, hends⟩ := yields_of_rightOperand hright
          refine ⟨⟨?_, ?_, hyields⟩, hends⟩
          · exact Token.operand?_eq_some_iff.mp hread₁
          · exact Token.word?_eq_some_iff.mp hread₂
  · rintro ⟨hyields, hends⟩
    simp only [yields_cons_iff] at hyields
    obtain ⟨found₁, behind₁, rfl, htoken₁, found₂, behind₂, rfl, htoken₂,
      hright⟩ := hyields
    have hread₁ := Token.operand?_eq_some_iff.mpr htoken₁
    have hread₂ := Token.word?_eq_some_iff.mpr htoken₂
    have hrightOperand := rightOperand_of_yields stop hright hends
    simp only [statement, expect, hread₁, hread₂, hrightOperand]

theorem opensGroup_ne_false {first : Lexeme} {rest : Ahead}
    (hfirst : first.token = .groupBegin) :
    (lexeme first rest).opensGroup ≠ false := by
  simp [opensGroup, hfirst]

theorem Yields.opensGroup_eq_false {ahead after : Ahead} {s : Statement}
    (hyields : ahead.Yields s.tokens after) : ahead.opensGroup = false := by
  rw [Statement.tokens_eq] at hyields
  obtain ⟨found, behind, rfl, htoken, -⟩ := yields_cons_iff.mp hyields
  cases hleft : s.left <;> simp [opensGroup, htoken, hleft, Operand.token]

end Ahead

namespace Parser

/-- The outcome of a parser function, seen through what is left ahead. -/
def view {ε α : Type} {P : Feed → Prop} :
    Except ε (α × { feed : Feed // P feed }) → Except ε (α × Ahead)
  | .error e => .error e
  | .ok (value, after) => .ok (value, after.val.ahead)

theorem view_expect {α : Type} (feed : Feed) (kind : ParseErrorKind)
    (read? : Token → Option α) :
    view (feed.expect kind read?) = feed.ahead.expect feed.limit kind read? := by
  have htells := feed.bump_tells
  unfold Feed.expect
  split
  next e hbump =>
    rw [hbump] at htells
    rw [show feed.ahead = .fault e from htells]
    rfl
  next after hbump =>
    have hlimit := Feed.limit_of_bump hbump
    rw [hbump] at htells
    rw [htells.1, ← hlimit]
    rfl
  next found after hbump =>
    rw [hbump] at htells
    rw [show feed.ahead = .lexeme found after.ahead from htells]
    simp only [Ahead.expect]
    cases read? found.token with
    | some value => rfl
    | none => rfl

theorem view_rightOperand (feed : Feed) :
    view (rightOperand feed) = feed.ahead.rightOperand feed.limit := by
  have htells := feed.look_tells
  unfold rightOperand
  split
  next e hlook =>
    rw [hlook] at htells
    rw [show feed.ahead = .fault e from htells]
    rfl
  next after hlook =>
    rw [hlook] at htells
    rw [htells.1]
    exact congrArg (fun ahead => Except.ok (none, ahead)) htells.2
  next found before hbefore behind hlook =>
    have hlimit := (Feed.limit_of_look_lexeme hlook).1
    rw [hlook] at htells
    obtain ⟨hsame, hahead⟩ := htells
    have hexpect := view_expect before .expectedOperand Token.operand?
    rw [hsame, hlimit, hahead] at hexpect
    rw [hahead]
    simp only [Ahead.rightOperand, ← hexpect]
    split
    next hends =>
      exact congrArg (fun ahead => Except.ok (none, ahead)) (hsame.trans hahead)
    next hends =>
      cases before.expect .expectedOperand Token.operand? with
      | error e => rfl
      | ok result => rfl

theorem limit_of_rightOperand {feed : Feed} {right : Option Operand}
    {after : feed.AtMost} (hright : rightOperand feed = .ok (right, after)) :
    after.val.limit = feed.limit := by
  unfold rightOperand at hright
  split at hright
  next => simp at hright
  next last hlook =>
    simp only [Except.ok.injEq, Prod.mk.injEq] at hright
    rw [← hright.2]
    exact Feed.limit_of_look_ended hlook
  next found before hbefore behind hlook =>
    have hlimit := (Feed.limit_of_look_lexeme hlook).1
    split at hright
    next =>
      simp only [Except.ok.injEq, Prod.mk.injEq] at hright
      rw [← hright.2]
      exact hlimit
    next =>
      split at hright
      next => simp at hright
      next operand last hlast hexpect =>
        simp only [Except.ok.injEq, Prod.mk.injEq] at hright
        rw [← hright.2]
        exact (Feed.limit_of_expect hexpect).trans hlimit

theorem limit_of_statement {feed : Feed} {s : Statement} {after : feed.Later}
    (hstatement : statement feed = .ok (s, after)) :
    after.val.limit = feed.limit := by
  unfold statement at hstatement
  split at hstatement
  next => simp at hstatement
  next left feed₁ h₁ hleft =>
    split at hstatement
    next => simp at hstatement
    next operator feed₂ h₂ hoperator =>
      split at hstatement
      next => simp at hstatement
      next right feed₃ h₃ hright =>
        have hlimit₁ := Feed.limit_of_expect hleft
        have hlimit₂ := Feed.limit_of_expect hoperator
        have hlimit₃ := limit_of_rightOperand hright
        simp only [Except.ok.injEq, Prod.mk.injEq] at hstatement
        rw [← hstatement.2]
        exact hlimit₃.trans (hlimit₂.trans hlimit₁)

theorem view_statement (feed : Feed) :
    view (statement feed) = feed.ahead.statement feed.limit := by
  unfold statement Ahead.statement
  rw [← view_expect]
  cases hleft : feed.expect .expectedOperand Token.operand? with
  | error e => rfl
  | ok result₁ =>
    obtain ⟨left, feed₁, h₁⟩ := result₁
    have hlimit₁ := Feed.limit_of_expect hleft
    simp only [view, ← hlimit₁]
    rw [← view_expect]
    cases hoperator : feed₁.expect .expectedOperator Token.word? with
    | error e => rfl
    | ok result₂ =>
      obtain ⟨operator, feed₂, h₂⟩ := result₂
      have hlimit₂ := Feed.limit_of_expect hoperator
      simp only [view, ← hlimit₂]
      rw [← view_rightOperand]
      cases rightOperand feed₂ with
      | error e => rfl
      | ok result₃ => rfl

end Parser

end FilterLanguage
