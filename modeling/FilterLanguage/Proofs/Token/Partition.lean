import FilterLanguage.Proofs.Token.Munch
import FilterLanguage.Proofs.Token.Passage

/-!
# Texts without an error

When scanning meets no error, the lexemes divide the text among them and leave
only spaces out.  What stands under the span of a lexeme is that lexeme by
itself, and two lexemes touch only where they cannot run together.  With an
error or without, no character is unexpected: some pattern always matches.
-/

namespace FilterLanguage

/-- The lexemes divide the text, spaces apart. -/
structure IsPartition (text : String) (lexemes : List Lexeme) : Prop where
  nonempty : ∀ t ∈ lexemes, t.span.start < t.span.stop
  inside : ∀ t ∈ lexemes, t.span.stop ≤ byteLength text.toList
  boundary : ∀ t ∈ lexemes, IsBoundary text.toList t.span.start ∧
    IsBoundary text.toList t.span.stop
  ordered : lexemes.Pairwise fun s t => s.span.stop ≤ t.span.start
  space : ∀ before c after, text.toList = before ++ c :: after →
    (∀ t ∈ lexemes, byteLength before < t.span.start ∨
      t.span.stop ≤ byteLength before) → c = ' '
  piece : ∀ t ∈ lexemes, ∃ before chars after,
    t.span.Marks text.toList before chars after ∧
      Token.single? (String.ofList chars) = some t.token
  touching : lexemes.Pairwise fun s t => s.span.stop = t.span.start →
    s.token.isRun = false ∨ t.token.isParenthesis = true

theorem Token.WrittenBy.isParenthesis_of_endsRun {token : Token}
    {chars rest : List Char} (hwritten : token.WrittenBy chars)
    (hends : EndsRun (chars ++ rest)) : token.isParenthesis = true := by
  cases hwritten with
  | groupBegin => rfl
  | groupEnd => rfl
  | string hquote value =>
    obtain ⟨-, hspace, hopen, hclose⟩ := hquote.ne
    have hrun := isRunChar_iff.mpr ⟨hspace, hopen, hclose⟩
    rw [hends _ rfl] at hrun
    cases hrun
  | run hreads =>
    have hrun := hreads.run _ (List.mem_cons_self ..)
    rw [hends _ rfl] at hrun
    cases hrun

/-- What stands in two parts stands in the one or in the other. -/
theorem append_cons_cases {α : Type} {before after front back : List α} {x : α}
    (h : front ++ back = before ++ x :: after) :
    (∃ between, front = before ++ x :: between) ∨
      ∃ between, before = front ++ between ∧ back = between ++ x :: after := by
  rcases List.append_eq_append_iff.mp h with ⟨between, hbefore, hback⟩ |
    ⟨between, hfront, hafter⟩
  · exact .inr ⟨between, hbefore, hback⟩
  · cases between with
    | nil =>
      rw [List.append_nil] at hfront
      exact .inr ⟨[], by simp [hfront], hafter.symm⟩
    | cons y between =>
      obtain ⟨rfl, -⟩ := List.cons.inj hafter
      exact .inl ⟨between, hfront⟩

namespace Cursor.Passes

variable {cursor after : Cursor} {lexemes : List Lexeme}

theorem bounds (hpasses : cursor.Passes lexemes after) {t : Lexeme}
    (ht : t ∈ lexemes) :
    cursor.offset ≤ t.span.start ∧ t.span.start < t.span.stop := by
  have hscan : .ok t ∈ cursor.scanAll := by
    rw [hpasses.scanAll]
    exact List.mem_append_left _ (List.mem_map_of_mem ht)
  obtain ⟨hstart, hstop, -⟩ := span_of_mem_scanAll hscan
  exact ⟨hstart, hstop⟩

theorem ordered (hpasses : cursor.Passes lexemes after) :
    lexemes.Pairwise fun s t => s.span.stop ≤ t.span.start := by
  have hall := cursor.scanAll_pairwise
  rw [hpasses.scanAll] at hall
  have hlexemes := List.pairwise_map.mp (List.pairwise_append.mp hall).1
  exact hlexemes.imp fun hst => hst _ _ rfl rfl

/-- A lexeme right at the cursor is the first one, without spaces before it. -/
theorem isParenthesis_of_start (hpasses : cursor.Passes lexemes after)
    (hends : EndsRun cursor.rest) {t : Lexeme} (ht : t ∈ lexemes)
    (hstart : t.span.start = cursor.offset) : t.token.isParenthesis = true := by
  cases hpasses with
  | nil => cases ht
  | @cons cursor next after found lexemes hnext hrest =>
    have htells := cursor.next_tells
    have hfinds := cursor.next_finds
    rw [hnext] at htells hfinds
    rcases List.mem_cons.mp ht with rfl | ht
    · cases hfinds with
      | @lexeme offset gap token chars rest hwritten _ =>
        obtain rfl : gap = 0 := Nat.add_eq_left.mp hstart
        exact hwritten.isParenthesis_of_endsRun hends
    · have hbounds := (hrest.bounds ht).1
      obtain ⟨hfirst, hwidth, hnextOffset, -⟩ := htells
      omega

theorem touching (hpasses : cursor.Passes lexemes after) :
    lexemes.Pairwise fun s t => s.span.stop = t.span.start →
      s.token.isRun = false ∨ t.token.isParenthesis = true := by
  induction hpasses with
  | nil => exact .nil
  | @cons cursor next after found lexemes hnext hrest ih =>
    have hfinds := cursor.next_finds
    rw [hnext] at hfinds
    refine List.pairwise_cons.mpr ⟨?_, ih⟩
    intro t ht hstart
    cases hfinds with
    | @lexeme offset gap token chars rest hwritten hends =>
      by_cases hrun : token.isRun = true
      · exact .inr (hrest.isParenthesis_of_start (hends hrun) ht hstart.symm)
      · exact .inl (by simpa using hrun)

/-- Outside of the lexemes there are only spaces. -/
theorem space (hpasses : cursor.Passes lexemes after)
    (hdone : after.next = .done) {before behind : List Char} {c : Char}
    (hrest : cursor.rest = before ++ c :: behind)
    (houtside : ∀ t ∈ lexemes, cursor.offset + byteLength before < t.span.start ∨
      t.span.stop ≤ cursor.offset + byteLength before) : c = ' ' := by
  induction hpasses generalizing before with
  | nil cursor =>
    obtain ⟨gap, hgap⟩ := next_eq_done_iff.mp hdone
    have hc : c ∈ spaces gap := by simp [← hgap, hrest]
    exact List.eq_of_mem_replicate hc
  | @cons cursor next after found lexemes hnext hpassesRest ih =>
    have hfinds := cursor.next_finds
    rw [hnext] at hfinds
    cases hfinds with
    | @lexeme offset gap token chars rest hwritten hends =>
      rcases append_cons_cases hrest with ⟨between, hgap⟩ |
        ⟨between, rfl, hback⟩
      · have hc : c ∈ spaces gap := by simp [hgap]
        exact List.eq_of_mem_replicate hc
      rcases append_cons_cases hback with ⟨between', rfl⟩ |
        ⟨between', rfl, hbehind⟩
      · have hsize := c.utf8Size_pos
        have hout := houtside _ (List.mem_cons_self ..)
        simp only [byteLength_append, byteLength_spaces, byteLength_cons] at hout
        omega
      · apply ih hdone hbehind
        intro t ht
        have hout := houtside t (List.mem_cons_of_mem _ ht)
        simp only [byteLength_append, byteLength_spaces] at hout
        simp only [Nat.add_assoc]
        exact hout

end Cursor.Passes

theorem isPartition_of_scanAll {text : String} {lexemes : List Lexeme}
    (hscan : (Cursor.ofText text).scanAll = lexemes.map .ok) :
    IsPartition text lexemes := by
  have hstands := Cursor.standsIn_ofText text
  have hall : (Cursor.ofText text).scanAll = lexemes.map .ok ++ [] := by
    rw [hscan, List.append_nil]
  obtain ⟨after, hpasses, hended⟩ := Cursor.Passes.of_scanAll hall
  have hmarks : ∀ t ∈ lexemes, ∃ before chars rest,
      t.span.Marks text.toList before chars rest ∧ t.token.WrittenBy chars := by
    intro t ht
    apply hstands.marks_of_mem_scanAll
    rw [hscan]
    exact List.mem_map_of_mem ht
  refine ⟨?_, ?_, ?_, hpasses.ordered, ?_, ?_, hpasses.touching⟩
  · intro t ht
    exact (hpasses.bounds ht).2
  · intro t ht
    obtain ⟨before, chars, rest, hspan, -⟩ := hmarks t ht
    exact hspan.isBoundary.2.le
  · intro t ht
    obtain ⟨before, chars, rest, hspan, -⟩ := hmarks t ht
    exact hspan.isBoundary
  · intro before c behind htext houtside
    have hoffset : (Cursor.ofText text).offset = 0 := rfl
    apply hpasses.space (Cursor.next_of_scanAll_nil hended) htext
    simpa only [hoffset, Nat.zero_add] using houtside
  · intro t ht
    obtain ⟨before, chars, rest, hspan, hwritten⟩ := hmarks t ht
    exact ⟨before, chars, rest, hspan, hwritten.single?⟩

theorem Cursor.Finds.kind_ne {cursor after : Cursor} {e : ParseError}
    (hfinds : cursor.Finds (.error e after)) : e.kind ≠ .unexpectedCharacter := by
  cases hfinds <;> simp [ParseError.found, ParseError.ofKind]

theorem Cursor.kind_ne_of_mem_scanAll {cursor : Cursor} {e : ParseError}
    (he : .error e ∈ cursor.scanAll) : e.kind ≠ .unexpectedCharacter := by
  fun_induction scanAll cursor with
  | case1 cursor hnext => cases he
  | case2 cursor found after hnext ih =>
    rcases List.mem_cons.mp he with hfirst | hrest
    · cases hfirst
    · exact ih hrest
  | case3 cursor first after hnext ih =>
    rcases List.mem_cons.mp he with hfirst | hrest
    · obtain rfl : e = first := by simpa using hfirst
      have hfinds := cursor.next_finds
      rw [hnext] at hfinds
      exact hfinds.kind_ne
    · exact ih hrest

/-- Scanning loses and invents nothing: without an error the lexemes divide the
text, and wherever input is left there is a longest match to go on with. -/
theorem scanAll_isPartition :
    (∀ (text : String) (lexemes : List Lexeme),
      (Cursor.ofText text).scanAll = lexemes.map .ok →
        IsPartition text lexemes) ∧
    (∀ (text : String) (e : ParseError),
      .error e ∈ (Cursor.ofText text).scanAll →
        e.kind ≠ .unexpectedCharacter) ∧
    (∀ cursor : Cursor, cursor.rest ≠ [] → ∃ pattern chars rest,
      cursor.rest = chars ++ rest ∧ IsLongestMatch pattern chars cursor.rest ∧
        cursor.next = pattern.scan cursor.offset chars rest) := by
  refine ⟨?_, ?_, ?_⟩
  · intro text lexemes hscan
    exact isPartition_of_scanAll hscan
  · intro text e he
    exact Cursor.kind_ne_of_mem_scanAll he
  · intro cursor hrest
    obtain ⟨pattern, chars, rest, htext, hmatch⟩ := exists_isLongestMatch hrest
    refine ⟨pattern, chars, rest, htext, hmatch, ?_⟩
    obtain ⟨offset, text⟩ := cursor
    obtain rfl : text = chars ++ rest := htext
    exact hmatch.next_eq_scan offset

theorem scanAll_isPartition_touching :
    let lexemes : List Lexeme :=
      [⟨.groupBegin, ⟨0, 1⟩⟩, ⟨.reference "é", ⟨1, 3⟩⟩,
        ⟨.reference "lt", ⟨4, 6⟩⟩, ⟨.literal (.string "ü'"), ⟨7, 13⟩⟩,
        ⟨.groupEnd, ⟨13, 14⟩⟩, ⟨.connective .or, ⟨14, 16⟩⟩,
        ⟨.groupBegin, ⟨16, 17⟩⟩, ⟨.reference "x", ⟨17, 18⟩⟩,
        ⟨.groupEnd, ⟨18, 19⟩⟩]
    let e := ParseError.ofKind .unterminatedString ⟨2, 6⟩
    (Cursor.ofText "(é lt 'ü\\'')OR(x)").scanAll = lexemes.map .ok ∧
      IsPartition "(é lt 'ü\\'')OR(x)" lexemes ∧
      .error e ∈ (Cursor.ofText "x 'é ").scanAll ∧
      e.kind ≠ .unexpectedCharacter ∧
      ∃ pattern chars rest, "trueish)".toList = chars ++ rest ∧
        IsLongestMatch pattern chars "trueish)".toList ∧
        Cursor.next ⟨0, "trueish)".toList⟩ = pattern.scan 0 chars rest := by
  intro lexemes e
  have hscan : (Cursor.ofText "(é lt 'ü\\'')OR(x)").scanAll =
      lexemes.map .ok := by
    decide +kernel
  have he : .error e ∈ (Cursor.ofText "x 'é ").scanAll := by
    decide +kernel
  exact ⟨hscan, scanAll_isPartition.1 _ _ hscan, he,
    scanAll_isPartition.2.1 _ _ he,
    scanAll_isPartition.2.2 ⟨0, "trueish)".toList⟩ (by decide)⟩

end FilterLanguage
