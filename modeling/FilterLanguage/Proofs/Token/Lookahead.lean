import FilterLanguage.Proofs.Token.Ahead
import Mathlib.Data.List.Basic

/-!
# Lookahead

A feed holds a lexeme that was looked at until it is taken.  It holds nothing
before the first look and nothing at the end of input, where each call scans
once more.  A reader cannot tell any of this: a call, whether it looks or takes,
gives the lexeme behind those that were taken before, and looks in between make
no difference.
-/

namespace FilterLanguage

/-- Scanning finds these lexemes, and then this error or the end of input. -/
def Cursor.ScansUpTo (cursor : Cursor) (found : List Lexeme)
    (fault : Option ParseError) : Prop :=
  upToError cursor.scanAll = found.map .ok ++ fault.toList.map .error

namespace Feed

/-- The two ways to call for the next lexeme. -/
inductive Access where
  | peek
  | bump
deriving DecidableEq

def access (feed : Feed) : Access → Except ParseError (Option Lexeme × Feed)
  | .peek => feed.peek
  | .bump => feed.bump

/-- Calls one after the other, none of which may fail: their answers and the
feed behind them. -/
def run (feed : Feed) :
    List Access → Except ParseError (List (Option Lexeme) × Feed)
  | [] => .ok ([], feed)
  | call :: calls =>
    match feed.access call with
    | .error e => .error e
    | .ok (answer, next) =>
      (next.run calls).map fun (answers, after) => (answer :: answers, after)

/-- What the reader gets to see of some calls. -/
def answers (feed : Feed) (calls : List Access) :
    Except ParseError (List (Option Lexeme)) :=
  (feed.run calls).map Prod.fst

/-- The lexemes among the answers to those calls that take. -/
def taken (calls : List Access) (answers : List (Option Lexeme)) :
    List Lexeme :=
  (calls.zip answers).filterMap fun (call, answer) =>
    match call with
    | .peek => none
    | .bump => answer

/-- The answer that is due when this lexeme comes next.  When none does, the
scan fails there or is at its end. -/
def dueAnswer : Option Lexeme → Option ParseError →
    Except ParseError (Option Lexeme)
  | some found, _ => .ok (some found)
  | none, some e => .error e
  | none, none => .ok none

end Feed

/-! ## One call -/

namespace Ahead

def ofScan (found : List Lexeme) (fault : Option ParseError) : Ahead :=
  found.foldr .lexeme (fault.elim .ended .fault)

def answer : Ahead → Except ParseError (Option Lexeme)
  | .ended => .ok none
  | .fault e => .error e
  | .lexeme found _ => .ok (some found)

/-- What lies ahead after a call. -/
def behind : Ahead → Feed.Access → Ahead
  | .lexeme _ rest, .bump => rest
  | ahead, _ => ahead

/-- The answers to some calls, none of which may fail, when nothing is held. -/
def answers :
    Ahead → List Feed.Access → Except ParseError (List (Option Lexeme))
  | _, [] => .ok []
  | ahead, call :: calls =>
    match ahead.answer with
    | .error e => .error e
    | .ok answer => ((ahead.behind call).answers calls).map (answer :: ·)

theorem answers_ended (calls : List Feed.Access) :
    ended.answers calls = .ok (.replicate calls.length none) := by
  induction calls with
  | nil => rfl
  | cons call calls ih =>
    have hbehind : ended.behind call = ended := by cases call <;> rfl
    rw [answers, answer, hbehind, ih]
    rfl

theorem answer_ofScan (found : List Lexeme) (fault : Option ParseError) :
    (ofScan found fault).answer = Feed.dueAnswer found.head? fault := by
  cases found with
  | nil => cases fault <;> rfl
  | cons first found => rfl

theorem behind_peek (ahead : Ahead) : ahead.behind .peek = ahead := by
  cases ahead <;> rfl

theorem behind_bump (found : List Lexeme) (fault : Option ParseError) :
    (ofScan found fault).behind .bump = ofScan found.tail fault := by
  cases found with
  | nil => cases fault <;> rfl
  | cons first found => rfl

end Ahead

namespace Feed

variable {feed after : Feed} {found : List Lexeme}
  {fault : Option ParseError} {given : List (Option Lexeme)}

/-- What a call tells about the lexemes ahead. -/
def AccessTells (feed : Feed) (call : Access) :
    Except ParseError (Option Lexeme × Feed) → Prop
  | .error e => feed.ahead.answer = .error e
  | .ok (answer, after) =>
    feed.ahead.answer = .ok answer ∧ after.ahead = feed.ahead.behind call

theorem peek_accessTells (feed : Feed) :
    feed.AccessTells .peek (feed.access .peek) := by
  rw [access]
  cases hpeek : feed.peek with
  | error e =>
    rw [AccessTells, peek_error_ahead hpeek, Ahead.answer]
  | ok result =>
    rcases result with ⟨answer, after⟩
    rw [AccessTells, Ahead.behind_peek]
    cases answer with
    | none =>
      obtain ⟨hended, hafter⟩ := peek_none_ahead hpeek
      rw [hended, hafter]
      exact ⟨rfl, rfl⟩
    | some found =>
      obtain ⟨hsame, hlexeme⟩ := peek_some_ahead hpeek
      rw [hsame, hlexeme]
      exact ⟨rfl, rfl⟩

theorem bump_accessTells (feed : Feed) :
    feed.AccessTells .bump (feed.access .bump) := by
  have htells := feed.bump_tells
  rw [access]
  cases hbump : feed.bump with
  | error e =>
    rw [hbump, BumpTells] at htells
    rw [AccessTells, htells, Ahead.answer]
  | ok result =>
    rcases result with ⟨answer, after⟩
    rw [hbump] at htells
    cases answer with
    | none =>
      obtain ⟨hended, hafter⟩ := htells
      rw [AccessTells, hended, hafter]
      exact ⟨rfl, rfl⟩
    | some found =>
      rw [BumpTells] at htells
      rw [AccessTells, htells]
      exact ⟨rfl, rfl⟩

theorem access_tells (feed : Feed) (call : Access) :
    feed.AccessTells call (feed.access call) := by
  cases call with
  | peek => exact feed.peek_accessTells
  | bump => exact feed.bump_accessTells

theorem access_ok_tells {call : Access} {answer : Option Lexeme}
    (hcall : feed.access call = .ok (answer, after)) :
    feed.ahead.answer = .ok answer ∧ after.ahead = feed.ahead.behind call := by
  have htells := feed.access_tells call
  rwa [hcall] at htells

theorem map_fst_access (feed : Feed) (call : Access) :
    (feed.access call).map Prod.fst = feed.ahead.answer := by
  have htells := feed.access_tells call
  cases hcall : feed.access call with
  | error e =>
    rw [hcall] at htells
    exact htells.symm
  | ok result =>
    rw [hcall] at htells
    exact htells.1.symm

/-! ## Calls in a row -/

theorem run_cons_eq_ok {call : Access} {calls : List Access}
    (hrun : feed.run (call :: calls) = .ok (given, after)) :
    ∃ answer next later, feed.access call = .ok (answer, next) ∧
      next.run calls = .ok (later, after) ∧ given = answer :: later := by
  rw [run] at hrun
  cases hcall : feed.access call with
  | error e =>
    rw [hcall] at hrun
    cases hrun
  | ok result =>
    rcases result with ⟨answer, next⟩
    rw [hcall] at hrun
    dsimp only at hrun
    cases hlater : next.run calls with
    | error e =>
      rw [hlater] at hrun
      cases hrun
    | ok results =>
      rw [hlater] at hrun
      cases hrun
      exact ⟨answer, next, results.1, rfl, hlater, rfl⟩

theorem answers_cons (feed : Feed) (call : Access) (calls : List Access) :
    feed.answers (call :: calls) =
      match feed.access call with
      | .error e => .error e
      | .ok (answer, next) => (next.answers calls).map (answer :: ·) := by
  rw [answers, run]
  cases feed.access call with
  | error e => rfl
  | ok result =>
    dsimp only
    rw [answers]
    cases result.2.run calls <;> rfl

/-- The held lexeme makes no difference: a feed answers as its lexemes would be
read without it. -/
theorem answers_eq_ahead (feed : Feed) (calls : List Access) :
    feed.answers calls = feed.ahead.answers calls := by
  induction calls generalizing feed with
  | nil => rfl
  | cons call calls ih =>
    have htells := feed.access_tells call
    rw [answers_cons, Ahead.answers]
    cases hcall : feed.access call with
    | error e =>
      rw [hcall] at htells
      rw [htells]
    | ok result =>
      rw [hcall] at htells
      rw [htells.1, ← htells.2]
      exact congrArg (Except.map (result.1 :: ·)) (ih result.2)

theorem taken_bump (calls : List Access) (answer : Option Lexeme)
    (later : List (Option Lexeme)) :
    taken (.bump :: calls) (answer :: later) =
      answer.toList ++ taken calls later := by
  cases answer <;> rfl

theorem eq_of_dueAnswer {next answer : Option Lexeme}
    (hanswer : dueAnswer next fault = .ok answer) : answer = next := by
  cases next with
  | some found => exact (Except.ok.inj hanswer).symm
  | none =>
    cases fault with
    | none => exact (Except.ok.inj hanswer).symm
    | some e => cases hanswer

/-- Calls that do not fail take lexemes from the front, one for each call that
takes until there are none left. -/
theorem run_ofScan {calls : List Access}
    (hahead : feed.ahead = .ofScan found fault)
    (hrun : feed.run calls = .ok (given, after)) :
    taken calls given = found.take (calls.count .bump) ∧
      after.ahead = .ofScan (found.drop (calls.count .bump)) fault := by
  induction calls generalizing feed found given with
  | nil =>
    cases hrun
    exact ⟨rfl, hahead⟩
  | cons call calls ih =>
    obtain ⟨answer, next, later, hcall, hlater, rfl⟩ := run_cons_eq_ok hrun
    obtain ⟨hanswer, hnext⟩ := access_ok_tells hcall
    rw [hahead] at hanswer hnext
    cases call with
    | peek =>
      rw [Ahead.behind_peek] at hnext
      exact ih hnext hlater
    | bump =>
      rw [Ahead.behind_bump] at hnext
      obtain ⟨htaken, hafter⟩ := ih hnext hlater
      rw [Ahead.answer_ofScan] at hanswer
      rw [taken_bump, eq_of_dueAnswer hanswer, htaken, List.count_cons_self]
      rw [List.drop_tail] at hafter
      refine ⟨?_, hafter⟩
      cases found <;> simp

end Feed

/-! ## Scans -/

namespace Cursor

theorem exists_scansUpTo (cursor : Cursor) :
    ∃ found fault, cursor.ScansUpTo found fault := by
  unfold ScansUpTo
  fun_induction scanAll cursor with
  | case1 cursor hnext => exact ⟨[], none, rfl⟩
  | case2 cursor first after hnext ih =>
    obtain ⟨found, fault, hscan⟩ := ih
    exact ⟨first :: found, fault, by simp [upToError, hscan]⟩
  | case3 cursor e after hnext ih => exact ⟨[], some e, rfl⟩

/-- What is scanned behind the error is left out on both sides. -/
theorem ScansUpTo.ahead_eq {cursor : Cursor} {found : List Lexeme}
    {fault : Option ParseError} (hscan : cursor.ScansUpTo found fault) :
    cursor.ahead = .ofScan found fault := by
  unfold ScansUpTo at hscan
  fun_induction scanAll cursor generalizing found with
  | case1 cursor hnext =>
    rw [ahead_of_done hnext]
    obtain ⟨hfound, hfault⟩ := List.append_eq_nil_iff.mp hscan.symm
    rw [List.map_eq_nil_iff] at hfound hfault
    rw [hfound, Option.toList_eq_nil_iff.mp hfault]
    rfl
  | case2 cursor first after hnext ih =>
    rw [ahead_of_lexeme hnext]
    cases found with
    | nil => cases fault <;> cases hscan
    | cons first' found =>
      obtain ⟨hfirst, hrest⟩ := List.cons.inj hscan
      rw [Except.ok.inj hfirst, ih hrest]
      rfl
  | case3 cursor e after hnext ih =>
    rw [ahead_of_error hnext]
    cases found with
    | nil =>
      cases fault <;> cases hscan
      rfl
    | cons first found => cases (List.cons.inj hscan).1

end Cursor

/-- A feed gives what its text would give without anything being held.  As long
as no call fails, those that take give the lexemes of the scan one after the
other.  Either call then gives the lexeme that comes next, or the error, or
nothing at the end of input.  A look changes no later answer, and at the end of
input all calls give nothing. -/
theorem lookahead_isTransparent (text : String) :
    (∃ found fault, (Cursor.ofText text).ScansUpTo found fault) ∧
    ∀ found fault, (Cursor.ofText text).ScansUpTo found fault →
      (∀ calls, (Feed.ofText text).answers calls =
        (Ahead.ofScan found fault).answers calls) ∧
      ∀ calls given feed,
        (Feed.ofText text).run calls = .ok (given, feed) →
          Feed.taken calls given = found.take (calls.count .bump) ∧
          (∀ call, (feed.access call).map Prod.fst =
            Feed.dueAnswer found[calls.count .bump]? fault) ∧
          (∀ answer later, feed.peek = .ok (answer, later) →
            ∀ more, later.answers more = feed.answers more) ∧
          (fault = none → found.length ≤ calls.count .bump →
            ∀ more, feed.answers more = .ok (.replicate more.length none)) := by
  refine ⟨Cursor.exists_scansUpTo _, ?_⟩
  intro found fault hscan
  have hfirst : (Feed.ofText text).ahead = .ofScan found fault := hscan.ahead_eq
  refine ⟨fun calls => by rw [Feed.answers_eq_ahead, hfirst], ?_⟩
  intro calls given feed hrun
  obtain ⟨htaken, hahead⟩ := Feed.run_ofScan hfirst hrun
  refine ⟨htaken, ?_, ?_, ?_⟩
  · intro call
    rw [Feed.map_fst_access, hahead, Ahead.answer_ofScan, List.head?_drop]
  · intro answer later hpeek more
    have hcall : feed.access .peek = .ok (answer, later) := hpeek
    obtain ⟨-, hlater⟩ := Feed.access_ok_tells hcall
    rw [Feed.answers_eq_ahead, Feed.answers_eq_ahead, hlater, Ahead.behind_peek]
  · intro hfault hlength more
    rw [hfault, List.drop_eq_nil_of_le hlength] at hahead
    rw [Feed.answers_eq_ahead, hahead]
    exact Ahead.answers_ended more

/-- The second lexeme is looked at and still comes; behind it there are only
spaces, which each further call passes over. -/
theorem lookahead_isTransparent_spaces :
    let text := "é (  "
    let name : Lexeme := ⟨.reference "é", ⟨0, 2⟩⟩
    let opening : Lexeme := ⟨.groupBegin, ⟨3, 4⟩⟩
    let calls : List Feed.Access := [.peek, .bump, .peek, .peek, .bump, .peek]
    let given := [name, name, opening, opening, opening].map some ++ [none]
    let between : Feed := ⟨⟨2, " (  ".toList⟩, none⟩
    let later : Feed := ⟨⟨4, "  ".toList⟩, some opening⟩
    let last : Feed := ⟨⟨4, "  ".toList⟩, none⟩
    (Cursor.ofText text).ScansUpTo [name, opening] none ∧
      (Feed.ofText text).run (calls.take 2) = .ok (given.take 2, between) ∧
      between.peek = .ok (some opening, later) ∧
      (between.access .bump).map Prod.fst = .ok (some opening) ∧
      (∀ more, later.answers more = between.answers more) ∧
      (Feed.ofText text).run calls = .ok (given, last) ∧
      Feed.taken calls given = [name, opening] ∧
      ∀ more, last.answers more = .ok (.replicate more.length none) := by
  intro text name opening calls given between later last
  have hscan : (Cursor.ofText text).ScansUpTo [name, opening] none := by
    unfold Cursor.ScansUpTo
    decide +kernel
  have hpeek : between.peek = .ok (some opening, later) := by rfl
  have hfront : (Feed.ofText text).run (calls.take 2) =
      .ok (given.take 2, between) := by decide +kernel
  have hrun : (Feed.ofText text).run calls = .ok (given, last) := by
    decide +kernel
  obtain ⟨-, hcalls⟩ := (lookahead_isTransparent text).2 _ _ hscan
  obtain ⟨-, hnext, hlook, -⟩ := hcalls _ _ _ hfront
  obtain ⟨htaken, -, -, hended⟩ := hcalls _ _ _ hrun
  exact ⟨hscan, hfront, hpeek, hnext .bump, hlook _ _ hpeek, hrun, htaken,
    hended rfl (by decide)⟩

end FilterLanguage
