import FilterLanguage.Proofs.Group.Parsing

/-!
# Moved runs

The parser copies positions into its errors and does not look at them.  If all
positions are moved, every run goes on as before and its error is moved too.  In
particular texts with the same tokens come to the same group, or to errors that
differ in nothing but the position.
-/

namespace FilterLanguage

def Span.move (f : Nat → Nat) (span : Span) : Span :=
  ⟨f span.start, f span.stop⟩

def Lexeme.move (f : Nat → Nat) (t : Lexeme) : Lexeme :=
  ⟨t.token, t.span.move f⟩

def ParseError.move (f : Nat → Nat) (e : ParseError) : ParseError :=
  ⟨e.kind, e.span.move f, e.message⟩

def Error.move (f : Nat → Nat) : Error → Error
  | .parse e => .parse (e.move f)
  | e => e

variable {limit : Option Nat} {stop depth : Nat} {turn : Turn}
  {ahead last : Ahead} {g : Group Statement} {e : Error}

namespace Ahead

def move (f : Nat → Nat) : Ahead → Ahead
  | .ended => .ended
  | .fault e => .fault (e.move f)
  | .lexeme found rest => .lexeme (found.move f) (rest.move f)

/-- What was read stays, and what lies ahead is moved. -/
def moveRest {α : Type} (f : Nat → Nat) :
    Except ParseError (α × Ahead) → Except ParseError (α × Ahead)
  | .error e => .error (e.move f)
  | .ok (value, after) => .ok (value, after.move f)

theorem Yields.move {after : Ahead} {tokens : List Token}
    (hyields : ahead.Yields tokens after) (f : Nat → Nat) :
    (ahead.move f).Yields tokens (after.move f) := by
  induction tokens generalizing ahead with
  | nil => rw [yields_nil_iff.mp hyields, yields_nil_iff]
  | cons token tokens ih =>
    obtain ⟨found, behind, rfl, htoken, hbehind⟩ := yields_cons_iff.mp hyields
    exact ⟨htoken, ih hbehind⟩

theorem endsStatement_move (f : Nat → Nat) :
    (ahead.move f).EndsStatement ↔ ahead.EndsStatement := by
  cases ahead <;> rfl

theorem endsGroup_move (f : Nat → Nat) :
    (ahead.move f).EndsGroup ↔ ahead.EndsGroup := by
  cases ahead <;> rfl

theorem opensGroup_move (f : Nat → Nat) :
    (ahead.move f).opensGroup = ahead.opensGroup := by
  cases ahead <;> rfl

theorem expect_move {α : Type} (f : Nat → Nat) (stop : Nat)
    (kind : ParseErrorKind) (read? : Token → Option α) (ahead : Ahead) :
    (ahead.move f).expect (f stop) kind read? =
      moveRest f (ahead.expect stop kind read?) := by
  cases ahead with
  | ended => rfl
  | fault e => rfl
  | lexeme found rest =>
    cases hread : read? found.token <;>
      simp [move, Lexeme.move, expect, hread, moveRest, ParseError.move,
        ParseError.found]

theorem rightOperand_move (f : Nat → Nat) (stop : Nat) (ahead : Ahead) :
    (ahead.move f).rightOperand (f stop) =
      moveRest f (ahead.rightOperand stop) := by
  cases ahead with
  | ended => rfl
  | fault e => rfl
  | lexeme found rest =>
    have hexpect := expect_move f stop .expectedOperand Token.operand?
      (.lexeme found rest)
    simp only [move, rightOperand] at hexpect ⊢
    rw [hexpect]
    by_cases hends : found.token.endsStatement = true
    · simp only [Lexeme.move, hends, if_true]
      rfl
    · simp only [Lexeme.move, hends]
      cases (lexeme found rest).expect stop .expectedOperand Token.operand? <;>
        rfl

theorem statement_move (f : Nat → Nat) (stop : Nat) (ahead : Ahead) :
    (ahead.move f).statement (f stop) = moveRest f (ahead.statement stop) := by
  unfold statement
  rw [expect_move]
  rcases ahead.expect stop .expectedOperand Token.operand? with
    e | ⟨left, ahead₁⟩
  · rfl
  simp only [moveRest]
  rw [expect_move]
  rcases ahead₁.expect stop .expectedOperator Token.word? with
    e | ⟨operator, ahead₂⟩
  · rfl
  simp only [moveRest]
  rw [rightOperand_move]
  rcases ahead₂.rightOperand stop with e | ⟨right, ahead₃⟩ <;> rfl

end Ahead

theorem Parses.move (hparses : Parses limit turn depth ahead g last)
    (f : Nat → Nat) :
    Parses limit turn depth (ahead.move f) g (last.move f) := by
  induction hparses with
  | nested hfirst hreached _ hclose _ ihInner ihFollow =>
    exact .nested hfirst hreached ihInner hclose ihFollow
  | statement hyields hends _ ih =>
    refine .statement (hyields.move f) ?_ ih
    intro hright
    exact (Ahead.endsStatement_move f).mpr (hends hright)
  | ended depth => exact .ended depth
  | close hfound => exact .close hfound
  | connective hfound _ ih => exact .connective hfound ih

theorem Fails.move (hfails : Fails limit stop turn depth ahead e)
    (f : Nat → Nat) :
    Fails limit (f stop) turn depth (ahead.move f) (e.move f) := by
  induction hfails with
  | tooDeep hfirst hreached => exact .tooDeep hfirst hreached
  | inside hfirst hreached _ ih => exact .inside hfirst hreached ih
  | unclosed hfirst hreached hinner =>
    exact .unclosed hfirst hreached (hinner.move f)
  | behindNested hfirst hreached hinner hclose _ ih =>
    exact .behindNested hfirst hreached (hinner.move f) hclose ih
  | statement hopens hstatement =>
    refine .statement ((Ahead.opensGroup_move f).trans hopens) ?_
    rw [Ahead.statement_move, hstatement]
    rfl
  | behindStatement hyields hends _ ih =>
    refine .behindStatement (hyields.move f) ?_ ih
    intro hright
    exact (Ahead.endsStatement_move f).mpr (hends hright)
  | fault depth e => exact .fault depth (e.move f)
  | noConnective hfound => exact .noConnective hfound
  | behindConnective hfound _ ih => exact .behindConnective hfound ih

theorem Fails.parse_or_exceeded (hfails : Fails limit stop turn depth ahead e) :
    (∃ e', e = .parse e') ∨ e = .recursionLimitExceeded := by
  induction hfails with
  | tooDeep => exact .inr rfl
  | inside _ _ _ ih => exact ih
  | unclosed => exact .inl ⟨_, rfl⟩
  | behindNested _ _ _ _ _ ih => exact ih
  | statement => exact .inl ⟨_, rfl⟩
  | behindStatement _ _ _ ih => exact ih
  | fault => exact .inl ⟨_, rfl⟩
  | noConnective => exact .inl ⟨_, rfl⟩
  | behindConnective _ _ ih => exact ih

/-! ## Whole filters -/

/-- The outcome of a filter, its position moved if it is an error. -/
def movedOutcome (f : Nat → Nat) :
    Except Error (Group Statement) → Except Error (Group Statement)
  | .ok g => .ok g
  | .error e => .error (e.move f)

theorem Comes.move {outcome : Except Error (Group Statement)}
    (hcomes : Comes limit stop ahead outcome) (f : Nat → Nat) :
    Comes limit (f stop) (ahead.move f) (movedOutcome f outcome) := by
  cases hcomes with
  | empty => exact .empty
  | filter hparses => exact .filter (hparses.move f)
  | @unopened found rest hfound =>
    have hmoved : (found.move f).token = .groupEnd := hfound
    exact .unopened hmoved
  | extra hparses => exact .extra (hparses.move f)
  | fails hends hfails =>
    refine .fails ?_ (hfails.move f)
    rwa [Ahead.endsGroup_move]

/-- The same group, or errors that differ in nothing but the position. -/
inductive SameOutcome :
    Except Error (Group Statement) → Except Error (Group Statement) → Prop
  | ok (g : Group Statement) : SameOutcome (.ok g) (.ok g)
  | parse {e e' : ParseError} (hkind : e.kind = e'.kind)
      (hmessage : e.message = e'.message) :
      SameOutcome (.error (.parse e)) (.error (.parse e'))
  | exceeded : SameOutcome (.error .recursionLimitExceeded)
      (.error .recursionLimitExceeded)

theorem Comes.parse_or_exceeded (hcomes : Comes limit stop ahead (.error e)) :
    (∃ e', e = .parse e') ∨ e = .recursionLimitExceeded := by
  cases hcomes with
  | unopened => exact .inl ⟨_, rfl⟩
  | extra => exact .inl ⟨_, rfl⟩
  | fails _ hfails => exact hfails.parse_or_exceeded

/-- With every position moved to zero both are runs over the same lexemes, and
these have one outcome. -/
theorem Comes.sameOutcome {stop' : Nat} {ahead' : Ahead}
    {outcome outcome' : Except Error (Group Statement)}
    (hcomes : Comes limit stop ahead outcome)
    (hcomes' : Comes limit stop' ahead' outcome')
    (hsame : ahead.move (fun _ => 0) = ahead'.move fun _ => 0) :
    SameOutcome outcome outcome' := by
  have hmoved := hcomes.move fun _ => 0
  rw [hsame] at hmoved
  have heq := hmoved.unique (hcomes'.move fun _ => 0)
  rcases outcome with e | g
  · rcases outcome' with e' | g'
    · have hmovedError : e.move (fun _ => 0) = e'.move fun _ => 0 :=
        Except.error.inj heq
      rcases hcomes.parse_or_exceeded with ⟨first, rfl⟩ | rfl
      · rcases hcomes'.parse_or_exceeded with ⟨second, rfl⟩ | rfl
        · obtain ⟨hkind, -, hmessage⟩ :=
            ParseError.mk.inj (Error.parse.inj hmovedError)
          exact .parse hkind hmessage
        · cases hmovedError
      · rcases hcomes'.parse_or_exceeded with ⟨second, rfl⟩ | rfl
        · cases hmovedError
        · exact .exceeded
    · cases heq
  · rcases outcome' with e' | g'
    · cases heq
    · obtain rfl : g = g' := Except.ok.inj heq
      exact .ok g

theorem Ahead.Yields.move_eq {ahead ahead' : Ahead} {tokens : List Token}
    (hyields : ahead.Yields tokens .ended)
    (hyields' : ahead'.Yields tokens .ended) :
    ahead.move (fun _ => 0) = ahead'.move fun _ => 0 := by
  induction tokens generalizing ahead ahead' with
  | nil => rw [yields_nil_iff.mp hyields, yields_nil_iff.mp hyields']
  | cons token tokens ih =>
    obtain ⟨found, behind, rfl, htoken, hbehind⟩ := yields_cons_iff.mp hyields
    obtain ⟨found', behind', rfl, htoken', hbehind'⟩ :=
      yields_cons_iff.mp hyields'
    simp only [Ahead.move, Lexeme.move, ih hbehind hbehind', htoken, htoken',
      Span.move]

/-- Within the same limit, what comes of a text that scans without an error is
told by its tokens, positions apart. -/
theorem Group.sameOutcome_of_scans {text text' : String} {tokens : List Token}
    (hscans : (Cursor.ofText text).Scans tokens)
    (hscans' : (Cursor.ofText text').Scans tokens) (limit : Option Nat) :
    SameOutcome (parseWithin limit text) (parseWithin limit text') := by
  have hyields := Cursor.scans_iff_yields.mp hscans
  have hyields' := Cursor.scans_iff_yields.mp hscans'
  exact (parseWithin_comes limit text).sameOutcome
    (parseWithin_comes limit text') (hyields.move_eq hyields')

end FilterLanguage
