import FilterLanguage.Proofs.Group.Reading

/-!
# Runs of the parser

What the parser makes of the lexemes ahead: `Parses` for the runs that come to a
group and `Fails` for the others, with one case for each way to go on.
Lookahead and the sizes of feeds play no part any more, so that what holds of
all runs is shown by induction over these cases.  A run has one outcome only,
and that is what the parser returns.
-/

namespace FilterLanguage

/-- From here on, inside `depth` groups, the parser takes the group and leaves
what lies behind it. -/
inductive Parses (limit : Option Nat) :
    Turn → Nat → Ahead → Group Statement → Ahead → Prop
  | nested {depth : Nat} {first close : Lexeme} {rest behind last : Ahead}
      {inner follow : Group Statement} (hfirst : first.token = .groupBegin)
      (hreached : Parser.reached limit depth = false)
      (hinner : Parses limit .item (depth + 1) rest inner
        (.lexeme close behind))
      (hclose : close.token = .groupEnd)
      (hfollow : Parses limit .connective depth behind follow last) :
      Parses limit .item depth (.lexeme first rest) (.nested inner follow) last
  | statement {depth : Nat} {ahead behind last : Ahead} {s : Statement}
      {follow : Group Statement} (hyields : ahead.Yields s.tokens behind)
      (hends : s.right = none → behind.EndsStatement)
      (hfollow : Parses limit .connective depth behind follow last) :
      Parses limit .item depth ahead (.statement s follow) last
  | ended (depth : Nat) : Parses limit .connective depth .ended .empty .ended
  | close {depth : Nat} {found : Lexeme} {rest : Ahead}
      (hfound : found.token = .groupEnd) :
      Parses limit .connective depth (.lexeme found rest) .empty
        (.lexeme found rest)
  | connective {depth : Nat} {found : Lexeme} {rest last : Ahead}
      {c : Connective} {follow : Group Statement}
      (hfound : found.token = .connective c)
      (hfollow : Parses limit .item depth rest follow last) :
      Parses limit .connective depth (.lexeme found rest)
        (.connective c follow) last

/-- The error of a group opened at `start` in a text of `stop` bytes. -/
def ParseError.unclosed (start stop : Nat) : ParseError :=
  ⟨.unclosedGroup, ⟨start, stop⟩,
    ParseErrorKind.unclosedGroup.message ++ ", expected `)`"⟩

/-- From here on, inside `depth` groups in a text of `stop` bytes, the parser
comes to an error. -/
inductive Fails (limit : Option Nat) (stop : Nat) :
    Turn → Nat → Ahead → Error → Prop
  | tooDeep {depth : Nat} {first : Lexeme} {rest : Ahead}
      (hfirst : first.token = .groupBegin)
      (hreached : Parser.reached limit depth = true) :
      Fails limit stop .item depth (.lexeme first rest) .recursionLimitExceeded
  | inside {depth : Nat} {first : Lexeme} {rest : Ahead} {e : Error}
      (hfirst : first.token = .groupBegin)
      (hreached : Parser.reached limit depth = false)
      (hinner : Fails limit stop .item (depth + 1) rest e) :
      Fails limit stop .item depth (.lexeme first rest) e
  | unclosed {depth : Nat} {first : Lexeme} {rest : Ahead}
      {inner : Group Statement} (hfirst : first.token = .groupBegin)
      (hreached : Parser.reached limit depth = false)
      (hinner : Parses limit .item (depth + 1) rest inner .ended) :
      Fails limit stop .item depth (.lexeme first rest)
        (.parse (.unclosed first.span.start stop))
  | behindNested {depth : Nat} {first close : Lexeme} {rest behind : Ahead}
      {inner : Group Statement} {e : Error} (hfirst : first.token = .groupBegin)
      (hreached : Parser.reached limit depth = false)
      (hinner : Parses limit .item (depth + 1) rest inner
        (.lexeme close behind))
      (hclose : close.token = .groupEnd)
      (hfollow : Fails limit stop .connective depth behind e) :
      Fails limit stop .item depth (.lexeme first rest) e
  | statement {depth : Nat} {ahead : Ahead} {e : ParseError}
      (hopens : ahead.opensGroup = false)
      (hstatement : ahead.statement stop = .error e) :
      Fails limit stop .item depth ahead (.parse e)
  | behindStatement {depth : Nat} {ahead behind : Ahead} {s : Statement}
      {e : Error} (hyields : ahead.Yields s.tokens behind)
      (hends : s.right = none → behind.EndsStatement)
      (hfollow : Fails limit stop .connective depth behind e) :
      Fails limit stop .item depth ahead e
  | fault (depth : Nat) (e : ParseError) :
      Fails limit stop .connective depth (.fault e) (.parse e)
  | noConnective {depth : Nat} {found : Lexeme} {rest : Ahead}
      (hfound : found.token.endsStatement = false) :
      Fails limit stop .connective depth (.lexeme found rest)
        (.parse (.found .expectedConnective found.span found.token.describe))
  | behindConnective {depth : Nat} {found : Lexeme} {rest : Ahead}
      {c : Connective} {e : Error} (hfound : found.token = .connective c)
      (hfollow : Fails limit stop .item depth rest e) :
      Fails limit stop .connective depth (.lexeme found rest) e

variable {limit : Option Nat} {stop depth : Nat} {turn : Turn} {ahead : Ahead}

/-- Nothing that is left can go on with the group. -/
theorem Parses.endsGroup {g : Group Statement} {last : Ahead}
    (hparses : Parses limit turn depth ahead g last) : last.EndsGroup := by
  induction hparses with
  | nested _ _ _ _ _ _ ih => exact ih
  | statement _ _ _ ih => exact ih
  | ended => trivial
  | close hfound => exact hfound
  | connective _ _ ih => exact ih

namespace Parses

variable {g h : Group Statement} {last last' : Ahead}

theorem nested_cases {first : Lexeme} {rest : Ahead}
    (hparses : Parses limit .item depth (.lexeme first rest) g last)
    (hfirst : first.token = .groupBegin) :
    ∃ inner close behind follow, g = .nested inner follow ∧
      Parser.reached limit depth = false ∧
      Parses limit .item (depth + 1) rest inner (.lexeme close behind) ∧
      Parses limit .connective depth behind follow last := by
  cases hparses with
  | nested _ hreached hinner _ hfollow =>
    exact ⟨_, _, _, _, rfl, hreached, hinner, hfollow⟩
  | statement hyields =>
    exact (Ahead.opensGroup_ne_false hfirst hyields.opensGroup_eq_false).elim

theorem statement_cases {s : Statement} {behind : Ahead}
    (hparses : Parses limit .item depth ahead g last)
    (hyields : ahead.Yields s.tokens behind)
    (hends : s.right = none → behind.EndsStatement) :
    ∃ follow, g = .statement s follow ∧
      Parses limit .connective depth behind follow last := by
  have hs : ahead.statement 0 = .ok (s, behind) :=
    Ahead.statement_eq_ok_iff.mpr ⟨hyields, hends⟩
  cases hparses with
  | nested hfirst =>
    exact (Ahead.opensGroup_ne_false hfirst hyields.opensGroup_eq_false).elim
  | statement hyields' hends' hfollow =>
    rw [Ahead.statement_eq_ok_iff.mpr ⟨hyields', hends'⟩] at hs
    cases hs
    exact ⟨_, rfl, hfollow⟩

theorem unique (hg : Parses limit turn depth ahead g last)
    (hh : Parses limit turn depth ahead h last') : g = h ∧ last = last' := by
  induction hg generalizing h last' with
  | nested hfirst _ _ _ _ ihInner ihFollow =>
    obtain ⟨inner, close, behind, follow, rfl, -, hinner, hfollow⟩ :=
      hh.nested_cases hfirst
    obtain ⟨rfl, hclose⟩ := ihInner hinner
    cases hclose
    obtain ⟨rfl, rfl⟩ := ihFollow hfollow
    exact ⟨rfl, rfl⟩
  | statement hyields hends _ ih =>
    obtain ⟨follow, rfl, hfollow⟩ := hh.statement_cases hyields hends
    obtain ⟨rfl, rfl⟩ := ih hfollow
    exact ⟨rfl, rfl⟩
  | ended =>
    cases hh
    exact ⟨rfl, rfl⟩
  | close hfound =>
    cases hh with
    | close => exact ⟨rfl, rfl⟩
    | connective hconnective =>
      rw [hfound] at hconnective
      cases hconnective
  | connective hfound _ ih =>
    cases hh with
    | close hclose =>
      rw [hfound] at hclose
      cases hclose
    | connective hconnective hfollow =>
      rw [hfound] at hconnective
      cases hconnective
      obtain ⟨rfl, rfl⟩ := ih hfollow
      exact ⟨rfl, rfl⟩

end Parses

namespace Fails

variable {e e' : Error}

theorem not_parses (hfails : Fails limit stop turn depth ahead e)
    {g : Group Statement} {last : Ahead} :
    ¬ Parses limit turn depth ahead g last := by
  intro hparses
  induction hfails generalizing g last with
  | tooDeep hfirst hreached =>
    obtain ⟨inner, close, behind, follow, rfl, hnot, -⟩ :=
      hparses.nested_cases hfirst
    rw [hreached] at hnot
    cases hnot
  | inside hfirst _ _ ih =>
    obtain ⟨inner, close, behind, follow, rfl, -, hinner, -⟩ :=
      hparses.nested_cases hfirst
    exact ih hinner
  | unclosed hfirst _ hended =>
    obtain ⟨inner, close, behind, follow, rfl, -, hinner, -⟩ :=
      hparses.nested_cases hfirst
    cases (hended.unique hinner).2
  | behindNested hfirst _ hclosed _ _ ih =>
    obtain ⟨inner, close, behind, follow, rfl, -, hinner, hfollow⟩ :=
      hparses.nested_cases hfirst
    cases (hclosed.unique hinner).2
    exact ih hfollow
  | statement hopens hstatement =>
    cases hparses with
    | nested hfirst =>
      exact (Ahead.opensGroup_ne_false hfirst hopens).elim
    | statement hyields hends =>
      rw [Ahead.statement_eq_ok_iff.mpr ⟨hyields, hends⟩] at hstatement
      cases hstatement
  | behindStatement hyields hends _ ih =>
    obtain ⟨follow, rfl, hfollow⟩ := hparses.statement_cases hyields hends
    exact ih hfollow
  | fault => cases hparses
  | noConnective hfound =>
    cases hparses with
    | close hclose =>
      rw [hclose] at hfound
      cases hfound
    | connective hconnective =>
      rw [hconnective] at hfound
      cases hfound
  | behindConnective hfound _ ih =>
    cases hparses with
    | close hclose =>
      rw [hfound] at hclose
      cases hclose
    | connective _ hfollow => exact ih hfollow

theorem exceeded_of_reached {first : Lexeme} {rest : Ahead}
    (hfails : Fails limit stop .item depth (.lexeme first rest) e)
    (hfirst : first.token = .groupBegin)
    (hreached : Parser.reached limit depth = true) :
    e = .recursionLimitExceeded := by
  cases hfails with
  | tooDeep => rfl
  | inside _ hnot | unclosed _ hnot | behindNested _ hnot =>
    rw [hreached] at hnot
    cases hnot
  | statement hopens => exact (Ahead.opensGroup_ne_false hfirst hopens).elim
  | behindStatement hyields =>
    exact (Ahead.opensGroup_ne_false hfirst hyields.opensGroup_eq_false).elim

theorem nested_cases {first : Lexeme} {rest : Ahead}
    (hfails : Fails limit stop .item depth (.lexeme first rest) e)
    (hfirst : first.token = .groupBegin)
    (hreached : Parser.reached limit depth = false) :
    Fails limit stop .item (depth + 1) rest e ∨
    (∃ inner, Parses limit .item (depth + 1) rest inner .ended ∧
      e = .parse (.unclosed first.span.start stop)) ∨
    ∃ inner close behind,
      Parses limit .item (depth + 1) rest inner (.lexeme close behind) ∧
        Fails limit stop .connective depth behind e := by
  cases hfails with
  | tooDeep _ hnot =>
    rw [hreached] at hnot
    cases hnot
  | inside _ _ hinner => exact .inl hinner
  | unclosed _ _ hinner => exact .inr (.inl ⟨_, hinner, rfl⟩)
  | behindNested _ _ hinner _ hfollow =>
    exact .inr (.inr ⟨_, _, _, hinner, hfollow⟩)
  | statement hopens => exact (Ahead.opensGroup_ne_false hfirst hopens).elim
  | behindStatement hyields =>
    exact (Ahead.opensGroup_ne_false hfirst hyields.opensGroup_eq_false).elim

theorem statement_cases (hfails : Fails limit stop .item depth ahead e)
    (hopens : ahead.opensGroup = false) :
    (∃ e', ahead.statement stop = .error e' ∧ e = .parse e') ∨
      ∃ s behind, ahead.statement stop = .ok (s, behind) ∧
        Fails limit stop .connective depth behind e := by
  cases hfails with
  | tooDeep hfirst | inside hfirst | unclosed hfirst | behindNested hfirst =>
    exact (Ahead.opensGroup_ne_false hfirst hopens).elim
  | statement _ hstatement => exact .inl ⟨_, hstatement, rfl⟩
  | behindStatement hyields hends hfollow =>
    exact .inr ⟨_, _, Ahead.statement_eq_ok_iff.mpr ⟨hyields, hends⟩, hfollow⟩

theorem unique (hfails : Fails limit stop turn depth ahead e)
    (hother : Fails limit stop turn depth ahead e') : e = e' := by
  induction hfails generalizing e' with
  | tooDeep hfirst hreached =>
    rw [hother.exceeded_of_reached hfirst hreached]
  | inside hfirst hreached hinner ih =>
    rcases hother.nested_cases hfirst hreached with hinner' |
      ⟨inner, hparses, -⟩ | ⟨inner, close, behind, hparses, -⟩
    · exact ih hinner'
    · exact (hinner.not_parses hparses).elim
    · exact (hinner.not_parses hparses).elim
  | unclosed hfirst hreached hinner =>
    rcases hother.nested_cases hfirst hreached with hinner' |
      ⟨inner, hparses, rfl⟩ | ⟨inner, close, behind, hparses, -⟩
    · exact (hinner'.not_parses hinner).elim
    · rfl
    · cases (hinner.unique hparses).2
  | behindNested hfirst hreached hinner hclose hfollow ih =>
    rcases hother.nested_cases hfirst hreached with hinner' |
      ⟨inner, hparses, -⟩ | ⟨inner, close, behind, hparses, hfollow'⟩
    · exact (hinner'.not_parses hinner).elim
    · cases (hinner.unique hparses).2
    · cases (hinner.unique hparses).2
      exact ih hfollow'
  | statement hopens hstatement =>
    rcases hother.statement_cases hopens with ⟨first, hfirst, rfl⟩ |
      ⟨s, behind, hs, -⟩
    · rw [hstatement] at hfirst
      cases hfirst
      rfl
    · rw [hstatement] at hs
      cases hs
  | behindStatement hyields hends _ ih =>
    rcases hother.statement_cases hyields.opensGroup_eq_false with
      ⟨first, hfirst, rfl⟩ | ⟨s, behind, hs, hfollow⟩
    · rw [Ahead.statement_eq_ok_iff.mpr ⟨hyields, hends⟩] at hfirst
      cases hfirst
    · rw [Ahead.statement_eq_ok_iff.mpr ⟨hyields, hends⟩] at hs
      cases hs
      exact ih hfollow
  | fault =>
    cases hother
    rfl
  | noConnective hfound =>
    cases hother with
    | noConnective => rfl
    | behindConnective hconnective =>
      rw [hconnective] at hfound
      cases hfound
  | behindConnective hfound _ ih =>
    cases hother with
    | noConnective hnot =>
      rw [hfound] at hnot
      cases hnot
    | behindConnective _ hfollow => exact ih hfollow

end Fails

/-! ## What the parser returns -/

namespace Parser

/-- What `close` finds where no group goes on. -/
def CloseTells (start : Nat) (feed : Feed) : Except ParseError feed.Later → Prop
  | .error e => feed.ahead = .ended ∧ e = .unclosed start feed.limit
  | .ok after => after.val.limit = feed.limit ∧
      ∃ found, feed.ahead = .lexeme found after.val.ahead ∧
        found.token = .groupEnd

theorem close_tells {feed : Feed} (start : Nat) (hends : feed.ahead.EndsGroup) :
    CloseTells start feed (close start feed) := by
  have htells := feed.bump_tells
  unfold close
  split
  next e hbump =>
    rw [hbump] at htells
    rw [show feed.ahead = .fault e from htells] at hends
    exact hends.elim
  next after hbump =>
    have hlimit := Feed.limit_of_bump hbump
    rw [hbump] at htells
    refine ⟨htells.1, ?_⟩
    rw [← hlimit]
    rfl
  next found after hbump =>
    have hlimit := Feed.limit_of_bump hbump
    rw [hbump] at htells
    have hahead : feed.ahead = .lexeme found after.ahead := htells
    rw [hahead] at hends
    have htoken : found.token = .groupEnd := hends
    rw [if_pos htoken]
    exact ⟨hlimit, found, hahead, htoken⟩

/-- The outcome of a parser function is what the lexemes ahead come to. -/
def Reports (limit : Option Nat) (turn : Turn) (depth : Nat) (feed : Feed)
    {P : Feed → Prop} :
    Except Error (Group Statement × { feed : Feed // P feed }) → Prop
  | .error e => Fails limit feed.limit turn depth feed.ahead e
  | .ok (g, after) => after.val.limit = feed.limit ∧
      Parses limit turn depth feed.ahead g after.val.ahead

mutual

/-- An inner group ends where it cannot go on, so that it is closed or left
open. -/
theorem elements_reports (limit : Option Nat) (depth : Nat) (feed : Feed) :
    Reports limit .item depth feed (elements limit depth feed) := by
  have htells := feed.look_tells
  rw [elements]
  split
  next e hlook =>
    rw [hlook] at htells
    have hahead : feed.ahead = .fault e := htells
    unfold Reports
    rw [hahead]
    exact .statement rfl rfl
  next after hafter hlook =>
    have hlimit := Feed.limit_of_look_ended hlook
    rw [hlook] at htells
    unfold Reports
    rw [htells.1, ← hlimit]
    exact .statement rfl rfl
  next found before hbefore behind hbehind hlook =>
    obtain ⟨hlimitBefore, hlimitBehind⟩ := Feed.limit_of_look_lexeme hlook
    rw [hlook] at htells
    obtain ⟨hsame, hahead⟩ := htells
    split
    next hopen =>
      split
      next hreached =>
        unfold Reports
        rw [hahead]
        exact .tooDeep hopen hreached
      next hreached =>
        rw [Bool.not_eq_true] at hreached
        have hinner := elements_reports limit (depth + 1) behind
        split
        next e helements =>
          rw [helements] at hinner
          unfold Reports at hinner ⊢
          rw [hlimitBehind] at hinner
          rw [hahead]
          exact .inside hopen hreached hinner
        next inner filled hfilled helements =>
          rw [helements] at hinner
          obtain ⟨hlimitFilled, hparses⟩ := hinner
          have hclose := close_tells found.span.start hparses.endsGroup
          split
          next e hunclosed =>
            rw [hunclosed] at hclose
            obtain ⟨hended, rfl⟩ := hclose
            rw [hended] at hparses
            unfold Reports
            rw [hahead, hlimitFilled, hlimitBehind]
            exact .unclosed hopen hreached hparses
          next closed hclosed hok =>
            rw [hok] at hclose
            obtain ⟨hlimitClosed, close, hfilledAhead, htoken⟩ := hclose
            rw [hfilledAhead] at hparses
            have hlimit : closed.limit = feed.limit :=
              hlimitClosed.trans (hlimitFilled.trans hlimitBehind)
            have hfollow := continuation_reports limit depth closed
            split
            next e hcontinuation =>
              rw [hcontinuation] at hfollow
              unfold Reports at hfollow ⊢
              rw [hlimit] at hfollow
              rw [hahead]
              exact .behindNested hopen hreached hparses htoken hfollow
            next rest last hlast hcontinuation =>
              rw [hcontinuation] at hfollow
              obtain ⟨hlimitLast, hrest⟩ := hfollow
              refine ⟨hlimitLast.trans hlimit, ?_⟩
              rw [hahead]
              exact .nested hopen hreached hparses htoken hrest
    next hopen =>
      have hopens : feed.ahead.opensGroup = false := by
        rw [hahead]
        exact decide_eq_false hopen
      have hview := view_statement before
      rw [hsame, hlimitBefore] at hview
      split
      next e hstatement =>
        rw [hstatement] at hview
        exact .statement hopens hview.symm
      next s stated hstated hstatement =>
        have hlimit := (limit_of_statement hstatement).trans hlimitBefore
        rw [hstatement] at hview
        obtain ⟨hyields, hends⟩ := Ahead.statement_eq_ok_iff.mp hview.symm
        have hfollow := continuation_reports limit depth stated
        split
        next e hcontinuation =>
          rw [hcontinuation] at hfollow
          unfold Reports at hfollow ⊢
          rw [hlimit] at hfollow
          exact .behindStatement hyields hends hfollow
        next rest last hlast hcontinuation =>
          rw [hcontinuation] at hfollow
          obtain ⟨hlimitLast, hrest⟩ := hfollow
          exact ⟨hlimitLast.trans hlimit, .statement hyields hends hrest⟩
termination_by feed.size
decreasing_by all_goals omega

theorem continuation_reports (limit : Option Nat) (depth : Nat) (feed : Feed) :
    Reports limit .connective depth feed (continuation limit depth feed) := by
  have htells := feed.look_tells
  rw [continuation]
  split
  next e hlook =>
    rw [hlook] at htells
    have hahead : feed.ahead = .fault e := htells
    unfold Reports
    rw [hahead]
    exact .fault depth e
  next after hlook =>
    rw [hlook] at htells
    refine ⟨Feed.limit_of_look_ended hlook, ?_⟩
    rw [htells.1, htells.2]
    exact .ended depth
  next found before hbefore behind hbehind hlook =>
    obtain ⟨hlimitBefore, hlimitBehind⟩ := Feed.limit_of_look_lexeme hlook
    rw [hlook] at htells
    obtain ⟨hsame, hahead⟩ := htells
    split
    next c hconnective =>
      have hfollow := elements_reports limit depth behind
      split
      next e helements =>
        rw [helements] at hfollow
        unfold Reports at hfollow ⊢
        rw [hlimitBehind] at hfollow
        rw [hahead]
        exact .behindConnective hconnective hfollow
      next rest last hlast helements =>
        rw [helements] at hfollow
        obtain ⟨hlimitLast, hrest⟩ := hfollow
        refine ⟨hlimitLast.trans hlimitBehind, ?_⟩
        rw [hahead]
        exact .connective hconnective hrest
    next hclose =>
      refine ⟨hlimitBefore, ?_⟩
      rw [hsame, hahead]
      exact .close hclose
    next hconnective hclose =>
      have hends : found.token.endsStatement = false := by
        cases htoken : found.token with
        | connective c => exact (hconnective c htoken).elim
        | groupEnd => exact (hclose htoken).elim
        | _ => rfl
      unfold Reports
      rw [hahead]
      exact .noConnective hends
termination_by feed.size
decreasing_by all_goals omega

end

end Parser

/-! ## Whole filters -/

theorem Parses.not_endsGroup {g : Group Statement} {last : Ahead}
    (hparses : Parses limit .item depth ahead g last) : ¬ ahead.EndsGroup := by
  intro hends
  cases hparses with
  | nested hfirst =>
    rw [show _ = Token.groupEnd from hends] at hfirst
    cases hfirst
  | @statement _ _ _ _ s _ hyields =>
    rw [Statement.tokens_eq] at hyields
    obtain ⟨found, behind, rfl, htoken, -⟩ := Ahead.yields_cons_iff.mp hyields
    rw [show _ = Token.groupEnd from hends] at htoken
    cases hleft : s.left <;> simp [hleft, Operand.token] at htoken

/-- What comes of the lexemes of a whole text of `stop` bytes. -/
inductive Comes (limit : Option Nat) (stop : Nat) :
    Ahead → Except Error (Group Statement) → Prop
  | empty : Comes limit stop .ended (.ok .empty)
  | filter {ahead : Ahead} {g : Group Statement}
      (hparses : Parses limit .item 0 ahead g .ended) :
      Comes limit stop ahead (.ok g)
  | unopened {found : Lexeme} {rest : Ahead}
      (hfound : found.token = .groupEnd) :
      Comes limit stop (.lexeme found rest)
        (.error (.parse (.ofKind .unmatchedGroupEnd found.span)))
  | extra {ahead rest : Ahead} {g : Group Statement} {found : Lexeme}
      (hparses : Parses limit .item 0 ahead g (.lexeme found rest)) :
      Comes limit stop ahead
        (.error (.parse (.ofKind .unmatchedGroupEnd found.span)))
  | fails {ahead : Ahead} {e : Error} (hends : ¬ ahead.EndsGroup)
      (hfails : Fails limit stop .item 0 ahead e) :
      Comes limit stop ahead (.error e)

theorem Comes.unique {outcome outcome' : Except Error (Group Statement)}
    (hcomes : Comes limit stop ahead outcome)
    (hother : Comes limit stop ahead outcome') : outcome = outcome' := by
  cases hcomes with
  | empty =>
    cases hother with
    | empty => rfl
    | filter hparses | extra hparses => exact (hparses.not_endsGroup trivial).elim
    | fails hends => exact (hends trivial).elim
  | unopened hfound =>
    cases hother with
    | unopened => rfl
    | filter hparses | extra hparses => exact (hparses.not_endsGroup hfound).elim
    | fails hends => exact (hends hfound).elim
  | filter hparses =>
    cases hother with
    | empty => exact (hparses.not_endsGroup trivial).elim
    | unopened hfound => exact (hparses.not_endsGroup hfound).elim
    | filter hparses' => rw [(hparses.unique hparses').1]
    | extra hparses' => cases (hparses.unique hparses').2
    | fails _ hfails => exact (hfails.not_parses hparses).elim
  | extra hparses =>
    cases hother with
    | empty => exact (hparses.not_endsGroup trivial).elim
    | unopened hfound => exact (hparses.not_endsGroup hfound).elim
    | filter hparses' => cases (hparses.unique hparses').2
    | extra hparses' =>
      cases (hparses.unique hparses').2
      rfl
    | fails _ hfails => exact (hfails.not_parses hparses).elim
  | fails hends hfails =>
    cases hother with
    | empty => exact (hends trivial).elim
    | unopened hfound => exact (hends hfound).elim
    | filter hparses | extra hparses => exact (hfails.not_parses hparses).elim
    | fails _ hfails' => rw [hfails.unique hfails']

theorem Parser.root_comes (limit : Option Nat) (feed : Feed) :
    Comes limit feed.limit feed.ahead (root limit feed) := by
  have htells := feed.look_tells
  unfold root
  split
  next e hlook =>
    rw [hlook] at htells
    rw [show feed.ahead = .fault e from htells]
    exact .fails id (.statement rfl rfl)
  next after hlook =>
    rw [hlook] at htells
    rw [htells.1]
    exact .empty
  next first before hbefore behind hlook =>
    have hlimit := (Feed.limit_of_look_lexeme hlook).1
    rw [hlook] at htells
    obtain ⟨hsame, hahead⟩ := htells
    split
    next hclose =>
      rw [hahead]
      exact .unopened hclose
    next hclose =>
      have hreports := elements_reports limit 0 before
      split
      next e helements =>
        rw [helements] at hreports
        unfold Reports at hreports
        rw [hsame, hlimit] at hreports
        refine .fails ?_ hreports
        rw [hahead]
        exact hclose
      next group last hlast helements =>
        rw [helements] at hreports
        obtain ⟨-, hparses⟩ := hreports
        have hends := hparses.endsGroup
        have hlastTells := last.bump_tells
        rw [hsame] at hparses
        split
        next e hbump =>
          rw [hbump] at hlastTells
          rw [show last.ahead = .fault e from hlastTells] at hends
          exact hends.elim
        next after hbump =>
          rw [hbump] at hlastTells
          rw [show last.ahead = .ended from hlastTells.1] at hparses
          exact .filter hparses
        next extra after hbump =>
          rw [hbump] at hlastTells
          rw [show last.ahead = .lexeme extra after.ahead from hlastTells]
            at hparses
          exact .extra hparses

theorem Group.parseWithin_comes (limit : Option Nat) (text : String) :
    Comes limit (byteLength text.toList) (Cursor.ofText text).ahead
      (parseWithin limit text) := by
  have hcomes := Parser.root_comes limit (Feed.ofText text)
  rwa [show (Feed.ofText text).limit = _ from limit_ofText text] at hcomes

theorem Group.parseWithin_eq_iff {text : String}
    {outcome : Except Error (Group Statement)} :
    parseWithin limit text = outcome ↔
      Comes limit (byteLength text.toList) (Cursor.ofText text).ahead
        outcome := by
  constructor
  · rintro rfl
    exact parseWithin_comes limit text
  · exact (parseWithin_comes limit text).unique

end FilterLanguage
