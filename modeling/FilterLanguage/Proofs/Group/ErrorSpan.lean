import FilterLanguage.Proofs.Group.Failure
import FilterLanguage.Proofs.Group.Nesting
import FilterLanguage.Proofs.Token.Passage

/-!
# Where errors point

The span of a parse error is a piece of the text, and which piece follows from
the kind of the error: a malformed number or escape, a literal from its opening
quote to the end, a token, a parenthesis without its counterpart, or the end of
the text.  So the underlined part of the text is what the error is about.
-/

namespace FilterLanguage

/-- Scanning without an error comes to this quote behind `before`. -/
def OpensLiteral (text : String) (before : List Char) (quote : Char) : Prop :=
  IsQuote quote ∧ ∃ (lexemes : List Lexeme) (cursor : Cursor) (gap : Nat)
    (rest : List Char), (Cursor.ofText text).Passes lexemes cursor ∧
      cursor.rest = spaces gap ++ quote :: rest ∧
      cursor.offset + gap = byteLength before

/-- None of the tokens closes a group that was opened in front of them. -/
def LeavesOpen (tokens : List Token) : Prop :=
  ∀ n ∈ levels tokens, 0 ≤ n

/-- What an error of this kind with this span points at. -/
inductive PointsAt (text : String) : ParseErrorKind → Span → Prop
  | number {span : Span} {before tail after : List Char} {first : Char}
      (hmarks : span.Marks text.toList before (first :: tail) after)
      (hfirst : isNumberStart first = true)
      (hrun : ∀ c ∈ first :: tail, isRunChar c = true) (hends : EndsRun after) :
      PointsAt text .invalidNumber span
  | escape {span : Span} {before value after : List Char} {quote found : Char}
      (hopens : OpensLiteral text before quote)
      (hmarks : span.Marks text.toList
        (before ++ quote :: Quoted.escape quote value) ['\\', found] after)
      (hbackslash : found ≠ '\\') (hquote : found ≠ quote) :
      PointsAt text .invalidEscape span
  | literal {before body : List Char} {quote : Char}
      (hopens : OpensLiteral text before quote)
      (htext : text.toList = before ++ quote :: body) :
      PointsAt text .unterminatedString
        ⟨byteLength before, byteLength text.toList⟩
  | unmatched {before : List Lexeme} {close : Lexeme}
      {after : List (Except ParseError Lexeme)}
      (hscan : (Cursor.ofText text).scanAll =
        before.map .ok ++ .ok close :: after)
      (hclose : close.token = .groupEnd)
      (hbefore : nesting (before.map Lexeme.token) = 0) :
      PointsAt text .unmatchedGroupEnd close.span
  | unclosed {before after : List Lexeme} {first : Lexeme}
      (hscan : (Cursor.ofText text).scanAll = (before ++ first :: after).map .ok)
      (hfirst : first.token = .groupBegin)
      (hopen : LeavesOpen (after.map Lexeme.token))
      (hlast : ∀ between t behind, after = between ++ t :: behind →
        t.token = .groupBegin → ¬ LeavesOpen (behind.map Lexeme.token)) :
      PointsAt text .unclosedGroup
        ⟨first.span.start, byteLength text.toList⟩
  | token {kind : ParseErrorKind} (hkind : kind.isExpectation = true)
      {before : List Lexeme} {t : Lexeme}
      {after : List (Except ParseError Lexeme)}
      (hscan : (Cursor.ofText text).scanAll =
        before.map .ok ++ .ok t :: after) :
      PointsAt text kind t.span
  | ended {kind : ParseErrorKind} (hkind : kind.isExpectation = true) :
      PointsAt text kind (.point (byteLength text.toList))

/-- The span is a piece of the text that is empty at the end only. -/
structure Span.IsPlaced (span : Span) (text : List Char) : Prop where
  ordered : span.start ≤ span.stop
  start : IsBoundary text span.start
  stop : IsBoundary text span.stop
  empty : span.start = span.stop → span = .point (byteLength text)

namespace Span

theorem Marks.isPlaced {span : Span} {text before chars after : List Char}
    (hmarks : span.Marks text before chars after)
    (hchars : 0 < byteLength chars) : span.IsPlaced text := by
  obtain ⟨hstart, hstop⟩ := hmarks.isBoundary
  have hspan := hmarks.span_eq
  refine ⟨?_, hstart, hstop, ?_⟩
  · rw [hspan]
    exact Nat.le_add_right _ _
  · rw [hspan]
    intro hempty
    simp only at hempty
    omega

theorem isPlaced_of_lt {text : List Char} {start : Nat}
    (hstart : IsBoundary text start) (hlt : start < byteLength text) :
    IsPlaced ⟨start, byteLength text⟩ text := by
  refine ⟨hlt.le, hstart, isBoundary_byteLength text, ?_⟩
  intro hempty
  exact (hlt.ne hempty).elim

/-- An empty span is not widened at the end of the text. -/
theorem IsPlaced.underlined {span : Span} {text : List Char}
    (hplaced : span.IsPlaced text) :
    span.underlined (byteLength text) = span := by
  have hstart := hplaced.start.le
  have hstop := hplaced.stop.le
  rw [Span.underlined, Nat.min_eq_left hstart, Nat.min_eq_left hstop]
  split
  next hempty =>
    rw [hplaced.empty hempty, Span.point]
    simp
  next => rfl

end Span

theorem isPlaced_of_mem_scanAll {text : String} {t : Lexeme}
    (ht : .ok t ∈ (Cursor.ofText text).scanAll) :
    t.span.start < t.span.stop ∧ t.span.IsPlaced text.toList := by
  have hstands := Cursor.standsIn_ofText text
  obtain ⟨before, chars, after, hmarks, hwritten⟩ :=
    hstands.marks_of_mem_scanAll ht
  have hpos := hwritten.byteLength_pos
  refine ⟨?_, hmarks.isPlaced hpos⟩
  rw [hmarks.span_eq]
  exact Nat.lt_add_of_pos_right hpos

theorem PointsAt.isPlaced {text : String} {kind : ParseErrorKind} {span : Span}
    (hpoints : PointsAt text kind span) : span.IsPlaced text.toList := by
  have hpos : ∀ (c : Char) (rest : List Char), 0 < byteLength (c :: rest) :=
    fun c rest => Nat.add_pos_left c.utf8Size_pos _
  cases hpoints with
  | number hmarks => exact hmarks.isPlaced (hpos _ _)
  | escape _ hmarks => exact hmarks.isPlaced (hpos _ _)
  | @literal before body quote _ htext =>
    refine Span.isPlaced_of_lt ⟨before, quote :: body, htext, rfl⟩ ?_
    rw [htext, byteLength_append]
    exact Nat.lt_add_of_pos_right (hpos quote body)
  | unmatched hscan => exact (isPlaced_of_mem_scanAll (by simp [hscan])).2
  | @unclosed before after first hscan =>
    have hfirst : .ok first ∈ (Cursor.ofText text).scanAll := by simp [hscan]
    obtain ⟨hlt, hplaced⟩ := isPlaced_of_mem_scanAll hfirst
    exact Span.isPlaced_of_lt hplaced.start (hlt.trans_le hplaced.stop.le)
  | token _ hscan => exact (isPlaced_of_mem_scanAll (by simp [hscan])).2
  | ended =>
    have hend := isBoundary_byteLength text.toList
    exact ⟨Nat.le_refl _, hend, hend, fun _ => rfl⟩

/-! ## Faults of the scanner -/

theorem Cursor.Passes.pointsAt {text : String} {lexemes : List Lexeme}
    {cursor after : Cursor} {e : ParseError}
    (hpasses : (Cursor.ofText text).Passes lexemes cursor)
    (hnext : cursor.next = .error e after) : PointsAt text e.kind e.span := by
  obtain ⟨front, htext, hfront⟩ := hpasses.standsIn (standsIn_ofText text)
  have hfinds := cursor.next_finds
  rw [hnext] at hfinds
  cases hfinds with
  | @badNumber offset gap first tail rest hrun hends hread =>
    have hbefore : byteLength (front ++ spaces gap) = offset + gap := by
      rw [byteLength_append, byteLength_spaces, ← hfront]
    have hmarks : Span.Marks
        ⟨offset + gap, offset + gap + byteLength (first :: tail)⟩ text.toList
        (front ++ spaces gap) (first :: tail) rest := by
      refine ⟨?_, ?_⟩
      · rw [htext, List.append_assoc]
      · rw [hbefore]
    exact .number hmarks (Token.isNumberStart_of_ofRun? hread) hrun hends
  | @badEscape offset gap quote found hquote value rest hbackslash hfound =>
    have hopens : OpensLiteral text (front ++ spaces gap) quote := by
      refine ⟨hquote, lexemes, _, gap, _, hpasses, rfl, ?_⟩
      rw [byteLength_append, byteLength_spaces, ← hfront]
    have hmarks : Span.Marks
        ⟨offset + gap + 1 + byteLength (Quoted.escape quote value),
          offset + gap + 1 + byteLength (Quoted.escape quote value) + 1 +
            found.utf8Size⟩ text.toList
        (front ++ spaces gap ++ quote :: Quoted.escape quote value)
        ['\\', found] rest := by
      have hbackslashSize : ('\\' : Char).utf8Size = 1 := rfl
      refine ⟨?_, ?_⟩
      · simp [htext]
      · simp [hquote.utf8Size, hbackslashSize, ← hfront, Nat.add_assoc]
    exact .escape hopens hmarks hbackslash hfound
  | @unterminated offset gap quote hquote body hreads =>
    have hbefore : offset + gap = byteLength (front ++ spaces gap) := by
      rw [byteLength_append, byteLength_spaces, ← hfront]
    have hopens : OpensLiteral text (front ++ spaces gap) quote :=
      ⟨hquote, lexemes, _, gap, body, hpasses, rfl, hbefore⟩
    have htext' : text.toList = front ++ spaces gap ++ quote :: body := by
      rw [htext, List.append_assoc]
    have hlimit : offset + gap + 1 + byteLength body =
        byteLength text.toList := by
      rw [htext', byteLength_append, byteLength_cons, hquote.utf8Size, hbefore,
        Nat.add_assoc]
    have hpoints := PointsAt.literal hopens htext'
    rw [← hbefore, ← hlimit] at hpoints
    exact hpoints

/-! ## Errors of the parser -/

namespace Ahead

/-- A group is opened here and nothing closes it. -/
def IsLeftOpen (stop : Nat) (e : ParseError) : Ahead → Prop
  | .lexeme first rest => first.token = .groupBegin ∧
      e = .unclosed first.span.start stop ∧
      ∃ inner : Group Statement, inner.Alternates .item ∧
        rest.Yields inner.tokens .ended
  | _ => False

/-- Behind some tokens there lies what the error is about. -/
def LeadsTo (stop : Nat) (e : ParseError) (ahead : Ahead) : Prop :=
  ∃ before rest, ahead.Yields before rest ∧
    (rest.Offends stop (fun _ => True) e ∨ rest.IsLeftOpen stop e)

theorem LeadsTo.behind {stop : Nat} {e : ParseError} {ahead later : Ahead}
    {tokens : List Token} (hleads : later.LeadsTo stop e)
    (hyields : ahead.Yields tokens later) : ahead.LeadsTo stop e := by
  obtain ⟨before, rest, hbefore, hrest⟩ := hleads
  exact ⟨tokens ++ before, rest, yields_append_iff.mpr ⟨later, hyields, hbefore⟩,
    hrest⟩

theorem LeadsTo.cons {stop : Nat} {e : ParseError} {found : Lexeme}
    {rest : Ahead} (hleads : rest.LeadsTo stop e) :
    (lexeme found rest).LeadsTo stop e :=
  hleads.behind (yields_singleton rfl)

end Ahead

theorem Fails.leadsTo {limit : Option Nat} {stop depth : Nat} {turn : Turn}
    {ahead : Ahead} {e : ParseError}
    (hfails : Fails limit stop turn depth ahead (.parse e)) :
    ahead.LeadsTo stop e := by
  generalize herror : Error.parse e = error at hfails
  induction hfails with
  | tooDeep => cases herror
  | inside _ _ _ ih => exact (ih herror).cons
  | unclosed hfirst _ hinner =>
    have he := Error.parse.inj herror
    exact ⟨[], _, Ahead.yields_nil_iff.mpr rfl,
      .inr ⟨hfirst, he, _, hinner.alternates, hinner.yields⟩⟩
  | behindNested _ _ hinner _ _ ih =>
    exact ((ih herror).cons.behind hinner.yields).cons
  | statement hopens hstatement =>
    cases herror
    obtain ⟨before, rest, hyields, -, hoffends⟩ :=
      Ahead.statement_error hstatement hopens
    exact ⟨before, rest, hyields, .inl (hoffends.mono fun _ _ _ _ => trivial)⟩
  | behindStatement hyields _ _ ih => exact (ih herror).behind hyields
  | fault =>
    cases herror
    exact ⟨[], _, Ahead.yields_nil_iff.mpr rfl, .inl .fault⟩
  | noConnective =>
    cases herror
    exact ⟨[], _, Ahead.yields_nil_iff.mpr rfl, .inl (.token rfl rfl trivial)⟩
  | behindConnective _ _ ih => exact (ih herror).cons

/-- No group that is opened in balanced tokens is left open. -/
theorem Nests.not_leavesOpen {front tokens behind : List Token} {depth : Nat}
    (hnests : Nests tokens depth)
    (htokens : tokens = front ++ .groupBegin :: behind) :
    ¬ LeavesOpen behind := by
  intro hopen
  have hfront : nesting front ∈ levels tokens :=
    ⟨front, ⟨.groupBegin :: behind, htokens.symm⟩, rfl⟩
  have hbehind : nesting behind ∈ levels behind := ⟨behind, List.prefix_rfl, rfl⟩
  have hsettled := hnests.settled
  rw [htokens, nesting_append, nesting_groupBegin] at hsettled
  have hnonneg := hnests.nonneg _ hfront
  have hrest := hopen _ hbehind
  omega

section Positions

variable {text : String} {e : ParseError} {lexemes : List Lexeme}
  {cursor : Cursor}

theorem Ahead.Offends.pointsAt {barred : Token → Prop}
    (hpasses : (Cursor.ofText text).Passes lexemes cursor)
    (hoffends : cursor.ahead.Offends (byteLength text.toList) barred e) :
    PointsAt text e.kind e.span := by
  generalize hahead : cursor.ahead = ahead at hoffends
  cases hoffends with
  | fault =>
    obtain ⟨after, hnext⟩ := Cursor.next_of_ahead_fault hahead
    exact hpasses.pointsAt hnext
  | token hkind hspan =>
    obtain ⟨after, hnext, -⟩ := Cursor.next_of_ahead_lexeme hahead
    have hscan := hpasses.scanAll
    rw [Cursor.scanAll_of_lexeme hnext] at hscan
    rw [hspan]
    exact .token hkind hscan
  | ended hkind hspan =>
    rw [hspan]
    exact .ended hkind

/-- What follows the parenthesis is balanced, so that it is the last one left
open. -/
theorem Ahead.IsLeftOpen.pointsAt
    (hpasses : (Cursor.ofText text).Passes lexemes cursor)
    (hopen : cursor.ahead.IsLeftOpen (byteLength text.toList) e) :
    PointsAt text e.kind e.span := by
  cases hnext : cursor.next with
  | done =>
    rw [Cursor.ahead_of_done hnext] at hopen
    exact hopen.elim
  | error first next =>
    rw [Cursor.ahead_of_error hnext] at hopen
    exact hopen.elim
  | lexeme first next =>
    rw [Cursor.ahead_of_lexeme hnext] at hopen
    obtain ⟨hfirst, rfl, inner, hinner, hyields⟩ := hopen
    obtain ⟨after, last, hafter, hafterTokens, hended⟩ :=
      Cursor.Passes.of_yields hyields
    have hall : (Cursor.ofText text).scanAll =
        (lexemes ++ first :: after).map .ok := by
      rw [hpasses.scanAll, Cursor.scanAll_of_lexeme hnext, hafter.scanAll,
        Cursor.scanAll_of_done (Cursor.next_of_ahead_ended hended),
        List.append_nil, List.map_append, List.map_cons]
    have hnests := hinner.nests
    rw [← hafterTokens] at hnests
    have hlast : ∀ between t behind, after = between ++ t :: behind →
        t.token = .groupBegin → ¬ LeavesOpen (behind.map Lexeme.token) := by
      intro between t behind hsplit htoken
      have htokens : after.map Lexeme.token =
          between.map Lexeme.token ++
            .groupBegin :: behind.map Lexeme.token := by
        rw [hsplit, List.map_append, List.map_cons, htoken]
      exact hnests.not_leavesOpen htokens
    exact .unclosed hall hfirst hnests.nonneg hlast

end Positions

theorem Comes.pointsAt {limit : Option Nat} {text : String} {e : ParseError}
    (hcomes : Comes limit (byteLength text.toList) (Cursor.ofText text).ahead
      (.error (.parse e))) : PointsAt text e.kind e.span := by
  generalize hahead : (Cursor.ofText text).ahead = ahead at hcomes
  cases hcomes with
  | @unopened found rest hfound =>
    obtain ⟨after, hnext, -⟩ := Cursor.next_of_ahead_lexeme hahead
    have hscan : (Cursor.ofText text).scanAll =
        ([] : List Lexeme).map .ok ++ .ok found :: after.scanAll :=
      Cursor.scanAll_of_lexeme hnext
    exact .unmatched hscan hfound nesting_nil
  | @extra _ rest g found hparses =>
    have hyields := hparses.yields
    rw [← hahead] at hyields
    obtain ⟨lexemes, cursor, hpasses, htokens, hcursor⟩ :=
      Cursor.Passes.of_yields hyields
    obtain ⟨after, hnext, -⟩ := Cursor.next_of_ahead_lexeme hcursor
    have hscan := hpasses.scanAll
    rw [Cursor.scanAll_of_lexeme hnext] at hscan
    refine .unmatched hscan hparses.endsGroup ?_
    rw [htokens]
    exact hparses.alternates.nests.settled
  | fails hends hfails =>
    obtain ⟨before, rest, hyields, hrest⟩ := hfails.leadsTo
    rw [← hahead] at hyields
    obtain ⟨lexemes, cursor, hpasses, -, rfl⟩ := Cursor.Passes.of_yields hyields
    rcases hrest with hoffends | hopen
    · exact hoffends.pointsAt hpasses
    · exact hopen.pointsAt hpasses

/-- Within any limit, the span of a parse error is a piece of the text that what
the error is about tells, and that piece is underlined as it is. -/
theorem Group.parseWithin_pointsAt {limit : Option Nat} {text : String}
    {e : ParseError} (hparse : parseWithin limit text = .error (.parse e)) :
    e.span.start ≤ e.span.stop ∧ e.span.stop ≤ byteLength text.toList ∧
      IsBoundary text.toList e.span.start ∧
      IsBoundary text.toList e.span.stop ∧
      PointsAt text e.kind e.span ∧
      (e.span.isEmpty = true → e.span = .point (byteLength text.toList)) ∧
      e.span.underlined (byteLength text.toList) = e.span := by
  have hpoints := (parseWithin_eq_iff.mp hparse).pointsAt
  have hplaced := hpoints.isPlaced
  refine ⟨hplaced.ordered, hplaced.stop.le, hplaced.start, hplaced.stop,
    hpoints, ?_, hplaced.underlined⟩
  intro hempty
  exact hplaced.empty (beq_iff_eq.mp hempty)

theorem Group.parseWithin_pointsAt_escape :
    let escape := ParseError.found .invalidEscape ⟨9, 13⟩ "`€`"
    let unclosed := ParseError.unclosed 10 16
    parseWithin (some 0) "é eq 'ü\\€'" = .error (.parse escape) ∧
      PointsAt "é eq 'ü\\€'" .invalidEscape ⟨9, 13⟩ ∧
      Span.underlined ⟨9, 13⟩ 14 = ⟨9, 13⟩ ∧
      parseWithin none "(a is AND (é is" = .error (.parse unclosed) ∧
      PointsAt "(a is AND (é is" .unclosedGroup ⟨10, 16⟩ ∧
      IsBoundary "(a is AND (é is".toList 16 := by
  intro escape unclosed
  have hescape : parseWithin (some 0) "é eq 'ü\\€'" = .error (.parse escape) := by
    decide +kernel
  have hunclosed : parseWithin none "(a is AND (é is" =
      .error (.parse unclosed) := by
    decide +kernel
  obtain ⟨-, -, -, -, hpoints, -, hunderlined⟩ := parseWithin_pointsAt hescape
  obtain ⟨-, -, -, hstop, hlast, -⟩ := parseWithin_pointsAt hunclosed
  exact ⟨hescape, hpoints, hunderlined, hunclosed, hlast, hstop⟩

end FilterLanguage
