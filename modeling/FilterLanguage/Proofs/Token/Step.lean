import FilterLanguage.Proofs.Token.Ahead
import FilterLanguage.Proofs.Token.Written

/-!
# One step of the scanner

A step passes over spaces and comes to the end of input, to a lexeme or to an
error.  `Cursor.Finds` has one case for each and says which characters lie
there.  All that is known of whole scans follows from these cases; the scanner
itself is opened here only.
-/

namespace FilterLanguage

def spaces (count : Nat) : List Char := List.replicate count ' '

@[simp] theorem spaces_zero : spaces 0 = [] := rfl

@[simp] theorem spaces_succ (count : Nat) :
    spaces (count + 1) = ' ' :: spaces count := rfl

@[simp] theorem byteLength_spaces (count : Nat) :
    byteLength (spaces count) = count := by
  induction count with
  | zero => rfl
  | succ count ih =>
    rw [spaces_succ, byteLength_cons, ih, Nat.add_comm]
    rfl

theorem spaces_add (m n : Nat) : spaces (m + n) = spaces m ++ spaces n :=
  List.replicate_add m n ' '

theorem spaces_append_cancel {gap gap' : ℕ} {c c' : Char}
    {rest rest' : List Char} (hc : c ≠ ' ') (hc' : c' ≠ ' ')
    (htext : spaces gap ++ c :: rest = spaces gap' ++ c' :: rest') :
    gap = gap' ∧ c :: rest = c' :: rest' := by
  induction gap generalizing gap' with
  | zero =>
    cases gap' with
    | zero => exact ⟨rfl, htext⟩
    | succ gap' => exact (hc (List.cons.inj htext).1).elim
  | succ gap ih =>
    cases gap' with
    | zero => exact (hc' (List.cons.inj htext).1.symm).elim
    | succ gap' =>
      obtain ⟨rfl, hrest⟩ := ih (List.cons.inj htext).2
      exact ⟨rfl, hrest⟩

theorem takeWhile_space (text : List Char) :
    ∃ count, text.takeWhile (· == ' ') = spaces count := by
  refine ⟨(text.takeWhile (· == ' ')).length, ?_⟩
  refine List.eq_replicate_iff.mpr ⟨rfl, ?_⟩
  intro c hc
  simpa using List.mem_takeWhile_imp hc

/-- The two characters with which a string literal can start. -/
def IsQuote (c : Char) : Prop := c = '"' ∨ c = '\''

instance : DecidablePred IsQuote :=
  fun c => inferInstanceAs (Decidable (c = '"' ∨ c = '\''))

theorem IsQuote.utf8Size {quote : Char} (hquote : IsQuote quote) :
    quote.utf8Size = 1 := by
  rcases hquote with rfl | rfl <;> rfl

theorem IsQuote.ne {quote : Char} (hquote : IsQuote quote) :
    quote ≠ '\\' ∧ quote ≠ ' ' ∧ quote ≠ '(' ∧ quote ≠ ')' := by
  rcases hquote with rfl | rfl <;> decide

namespace Token

def isParenthesis : Token → Bool
  | .groupBegin | .groupEnd => true
  | _ => false

theorem ReadsRun.isRun {token : Token} {first : Char} {tail : List Char}
    (hreads : token.ReadsRun first tail) : token.isRun = true := by
  have hread := hreads.reads
  unfold ofRun? at hread
  repeat' split at hread
  all_goals cases hread
  all_goals rfl

theorem isNumberStart_of_ofRun? {first : Char} {run : List Char}
    (hread : ofRun? first run = none) : isNumberStart first = true := by
  by_contra hstart
  simp only [ofRun?, if_neg hstart] at hread
  repeat' split at hread
  all_goals cases hread

/-- The token is what these characters, and no fewer of them, are read as. -/
inductive WrittenBy : Token → List Char → Prop
  | groupBegin : WrittenBy .groupBegin ['(']
  | groupEnd : WrittenBy .groupEnd [')']
  | string {quote : Char} (hquote : IsQuote quote) (value : List Char) :
      WrittenBy (.literal (.string (String.ofList value)))
        (quote :: (Quoted.escape quote value ++ [quote]))
  | run {token : Token} {first : Char} {tail : List Char}
      (hreads : token.ReadsRun first tail) : WrittenBy token (first :: tail)

theorem WrittenBy.byteLength_pos {token : Token} {chars : List Char}
    (hwritten : token.WrittenBy chars) : 0 < byteLength chars := by
  have hpos : ∀ (c : Char) (rest : List Char), 0 < byteLength (c :: rest) :=
    fun c rest => Nat.add_pos_left c.utf8Size_pos _
  cases hwritten <;> exact hpos _ _

theorem WrittenBy.isWritable {token : Token} {chars : List Char}
    (hwritten : token.WrittenBy chars) : token.IsWritable := by
  cases hwritten with
  | groupBegin => trivial
  | groupEnd => trivial
  | string hquote value => trivial
  | run hreads =>
    exact isWritable_of_ofRun? hreads.doubleQuote hreads.singleQuote hreads.run
      hreads.reads

theorem IsWritable.writtenBy_text {token : Token}
    (hwritable : token.IsWritable) : token.WrittenBy token.text.toList := by
  cases hrun : token.isRun with
  | true =>
    obtain ⟨first, tail, hchars, hreads⟩ := exists_readsRun hwritable hrun
    rw [hchars]
    exact .run hreads
  | false =>
    cases token with
    | literal value =>
      cases value with
      | number x => simp [isRun] at hrun
      | boolean value => simp [isRun] at hrun
      | string value =>
        have hwritten := WrittenBy.string (.inl rfl) value.toList
        rwa [String.ofList_toList, ← Literal.text_string] at hwritten
    | reference name => simp [isRun] at hrun
    | connective c => simp [isRun] at hrun
    | groupBegin => exact .groupBegin
    | groupEnd => exact .groupEnd

end Token

namespace Cursor

theorem skipSpaces_of_ne {offset : Nat} {first : Char} {rest : List Char}
    (hfirst : first ≠ ' ') :
    skipSpaces ⟨offset, first :: rest⟩ = ⟨offset, first :: rest⟩ := by
  simp [skipSpaces, advance, hfirst]

theorem next_space (offset : Nat) (rest : List Char) :
    next ⟨offset, ' ' :: rest⟩ = next ⟨offset + 1, rest⟩ := by
  have hsize : (' ' : Char).utf8Size = 1 := rfl
  have hskip : skipSpaces ⟨offset, ' ' :: rest⟩ =
      skipSpaces ⟨offset + 1, rest⟩ := by
    simp [skipSpaces, advance, hsize, Nat.add_assoc]
  rw [next, next, hskip]

theorem next_spaces_append (offset gap : Nat) (rest : List Char) :
    next ⟨offset, spaces gap ++ rest⟩ = next ⟨offset + gap, rest⟩ := by
  induction gap generalizing offset with
  | zero => rfl
  | succ gap ih =>
    rw [spaces_succ, List.cons_append, next_space, ih, Nat.add_assoc,
      Nat.add_comm 1]

theorem next_nil (offset : Nat) : next ⟨offset, []⟩ = .done := by
  simp [next, skipSpaces, advance]

theorem next_quote {quote : Char} (hquote : IsQuote quote) (offset : Nat)
    (rest : List Char) :
    next ⟨offset, quote :: rest⟩ = quoted offset quote rest := by
  obtain ⟨-, hspace, hopen, hclose⟩ := hquote.ne
  rw [next, skipSpaces_of_ne hspace]
  simp only [hopen, hclose, if_false]
  exact if_pos hquote

theorem next_run {first : Char} (hrun : isRunChar first = true)
    (hquote : ¬ IsQuote first) (offset : Nat) (rest : List Char) :
    next ⟨offset, first :: rest⟩ = run offset first rest := by
  obtain ⟨hspace, hopen, hclose⟩ := isRunChar_iff.mp hrun
  rw [next, skipSpaces_of_ne hspace]
  simp only [hopen, hclose, if_false]
  exact if_neg hquote

theorem next_readsRun {offset : Nat} {token : Token} {first : Char}
    {tail rest : List Char} (hreads : token.ReadsRun first tail)
    (hrest : EndsRun rest) :
    next ⟨offset, first :: tail ++ rest⟩ =
      .lexeme ⟨token, ⟨offset, offset + byteLength (first :: tail)⟩⟩
        ⟨offset + byteLength (first :: tail), rest⟩ := by
  obtain ⟨hfirst, htail⟩ := List.forall_mem_cons.mp hreads.run
  have hquote := not_or.mpr ⟨hreads.doubleQuote, hreads.singleQuote⟩
  rw [List.cons_append, next_run hfirst hquote]
  simp only [run, takeWhile_run htail hrest, dropWhile_run htail hrest,
    hreads.reads]

theorem skipSpaces_first {cursor : Cursor} {offset : Nat} {first : Char}
    {rest : List Char} (hskip : cursor.skipSpaces = ⟨offset, first :: rest⟩) :
    first ≠ ' ' := by
  have hdrop : cursor.rest.dropWhile (· == ' ') = first :: rest :=
    congrArg Cursor.rest hskip
  have hhead := List.head?_dropWhile_not (· == ' ') cursor.rest
  rw [hdrop] at hhead
  simpa using hhead

/-- What lies in front of a cursor, and what a step makes of it. -/
inductive Finds : Cursor → Scan → Prop
  | done (offset gap : Nat) : Finds ⟨offset, spaces gap⟩ .done
  | lexeme (offset gap : Nat) {token : Token} {chars rest : List Char}
      (hwritten : token.WrittenBy chars)
      (hends : token.isRun = true → EndsRun rest) :
      Finds ⟨offset, spaces gap ++ (chars ++ rest)⟩
        (.lexeme ⟨token, ⟨offset + gap, offset + gap + byteLength chars⟩⟩
          ⟨offset + gap + byteLength chars, rest⟩)
  | badNumber (offset gap : Nat) {first : Char} {tail rest : List Char}
      (hrun : ∀ c ∈ first :: tail, isRunChar c = true) (hends : EndsRun rest)
      (hread : Token.ofRun? first (first :: tail) = none) :
      Finds ⟨offset, spaces gap ++ (first :: tail ++ rest)⟩
        (.error
          (.found .invalidNumber
            ⟨offset + gap, offset + gap + byteLength (first :: tail)⟩
            ("`" ++ String.ofList (first :: tail) ++ "`"))
          ⟨offset + gap + byteLength (first :: tail), rest⟩)
  | badEscape (offset gap : Nat) {quote found : Char} (hquote : IsQuote quote)
      (value rest : List Char) (hbackslash : found ≠ '\\')
      (hfound : found ≠ quote) :
      Finds ⟨offset, spaces gap ++
          quote :: (Quoted.escape quote value ++ '\\' :: found :: rest)⟩
        (.error
          (.found .invalidEscape
            ⟨offset + gap + 1 + byteLength (Quoted.escape quote value),
              offset + gap + 1 + byteLength (Quoted.escape quote value) + 1 +
                found.utf8Size⟩
            ("`" ++ String.singleton found ++ "`"))
          ⟨offset + gap + 1,
            Quoted.escape quote value ++ '\\' :: found :: rest⟩)
  | unterminated (offset gap : Nat) {quote : Char} (hquote : IsQuote quote)
      {body : List Char} (hreads : Quoted.Reads quote body .unterminated) :
      Finds ⟨offset, spaces gap ++ quote :: body⟩
        (.error
          (.ofKind .unterminatedString
            ⟨offset + gap, offset + gap + 1 + byteLength body⟩)
          ⟨offset + gap + 1, body⟩)

theorem quoted_finds {quote : Char} (hquote : IsQuote quote)
    (offset gap : Nat) (rest : List Char) :
    Finds ⟨offset, spaces gap ++ quote :: rest⟩
      (quoted (offset + gap) quote rest) := by
  have hsize := hquote.utf8Size
  generalize hbody : Quoted.read quote rest = body
  have hreads := Quoted.read_reads quote rest
  rw [hbody] at hreads
  simp only [quoted, hbody]
  cases hreads with
  | closed value after =>
    have hfinds : Finds ⟨offset, spaces gap ++ (_ ++ after)⟩ _ :=
      .lexeme offset gap (.string hquote value) (by simp [Token.isRun])
    simpa [hsize, Nat.add_assoc, Nat.add_comm] using hfinds
  | badEscape value after hbackslash hfound =>
    exact .badEscape offset gap hquote value after hbackslash hfound
  | unterminated value =>
    exact .unterminated offset gap hquote (.unterminated value)
  | lastBackslash value =>
    exact .unterminated offset gap hquote (.lastBackslash value)

theorem run_finds {first : Char} (hrun : isRunChar first = true)
    (hquote : ¬ IsQuote first) (offset gap : Nat) (rest : List Char) :
    Finds ⟨offset, spaces gap ++ first :: rest⟩
      (run (offset + gap) first rest) := by
  have hword : ∀ c ∈ first :: rest.takeWhile isRunChar, isRunChar c = true := by
    intro c hc
    rcases List.mem_cons.mp hc with rfl | hc
    · exact hrun
    · exact List.mem_takeWhile_imp hc
  have hends : EndsRun (rest.dropWhile isRunChar) := by
    intro c hc
    have hhead := List.head?_dropWhile_not isRunChar rest
    rw [Option.mem_def.mp hc] at hhead
    simpa using hhead
  have hrest : first :: rest =
      first :: rest.takeWhile isRunChar ++ rest.dropWhile isRunChar := by
    rw [List.cons_append, List.takeWhile_append_dropWhile]
  rw [hrest]
  simp only [run]
  split
  next token hread =>
    obtain ⟨hdouble, hsingle⟩ := not_or.mp hquote
    exact .lexeme offset gap (.run ⟨hdouble, hsingle, hword, hread⟩)
      fun _ => hends
  next hread =>
    exact .badNumber offset gap hword hends hread

theorem next_finds (cursor : Cursor) : cursor.Finds cursor.next := by
  obtain ⟨offset, text⟩ := cursor
  obtain ⟨gap, hgap⟩ := takeWhile_space text
  have htext : text = spaces gap ++ text.dropWhile (· == ' ') := by
    rw [← hgap, List.takeWhile_append_dropWhile]
  have hskip : skipSpaces ⟨offset, text⟩ =
      ⟨offset + gap, text.dropWhile (· == ' ')⟩ := by
    simp [skipSpaces, advance, hgap]
  unfold next
  split
  next start hdone =>
    rw [hskip, Cursor.mk.injEq] at hdone
    rw [htext, hdone.2, List.append_nil]
    exact .done offset gap
  next start first rest hfirst =>
    have hspace := skipSpaces_first hfirst
    rw [hskip, Cursor.mk.injEq] at hfirst
    obtain ⟨rfl, hrest⟩ := hfirst
    rw [htext, hrest]
    split
    next hopen =>
      subst hopen
      exact .lexeme offset gap .groupBegin (by simp [Token.isRun])
    next hopen =>
    split
    next hclose =>
      subst hclose
      exact .lexeme offset gap .groupEnd (by simp [Token.isRun])
    next hclose =>
    split
    next hquote => exact quoted_finds hquote offset gap rest
    next hquote =>
      exact run_finds (isRunChar_iff.mpr ⟨hspace, hopen, hclose⟩) hquote offset
        gap rest

/-- What a token is written by is read as the token, behind any spaces and in
front of anything that cannot lengthen it. -/
theorem next_of_writtenBy {token : Token} {chars rest : List Char}
    (hwritten : token.WrittenBy chars)
    (hends : token.isRun = true → EndsRun rest) (offset gap : Nat) :
    next ⟨offset, spaces gap ++ (chars ++ rest)⟩ =
      .lexeme ⟨token, ⟨offset + gap, offset + gap + byteLength chars⟩⟩
        ⟨offset + gap + byteLength chars, rest⟩ := by
  rw [next_spaces_append]
  generalize offset + gap = start
  cases hwritten with
  | groupBegin =>
    simp [next, skipSpaces_of_ne, mark,
      show ('(' : Char).utf8Size = 1 from rfl]
  | groupEnd =>
    simp [next, skipSpaces_of_ne, mark,
      show (')' : Char).utf8Size = 1 from rfl]
  | @string quote hquote value =>
    have hread := Quoted.read_escape hquote.ne.1 value rest
    rw [List.cons_append, List.append_assoc, next_quote hquote]
    simp [quoted, hread, hquote.utf8Size, Nat.add_assoc, Nat.add_comm 1]
  | run hreads => exact next_readsRun hreads (hends hreads.isRun)

theorem next_eq_done_iff {cursor : Cursor} :
    cursor.next = .done ↔ ∃ gap, cursor.rest = spaces gap := by
  constructor
  · intro hnext
    have hfinds := cursor.next_finds
    rw [hnext] at hfinds
    cases hfinds with
    | done offset gap => exact ⟨gap, rfl⟩
  · obtain ⟨offset, rest⟩ := cursor
    rintro ⟨gap, rfl⟩
    rw [← List.append_nil (spaces gap), next_spaces_append, next_nil]

/-- What a step finds is what it comes to. -/
theorem Finds.next_eq {cursor : Cursor} {scan : Scan}
    (hfinds : cursor.Finds scan) : cursor.next = scan := by
  cases hfinds with
  | done offset gap => exact next_eq_done_iff.mpr ⟨gap, rfl⟩
  | lexeme offset gap hwritten hends =>
    exact next_of_writtenBy hwritten hends offset gap
  | @badNumber offset gap first tail rest hrun hends hread =>
    obtain ⟨hfirst, htail⟩ := List.forall_mem_cons.mp hrun
    have hstart := Token.isNumberStart_of_ofRun? hread
    have hquote : ¬ IsQuote first := by
      rintro (rfl | rfl) <;> cases hstart
    rw [next_spaces_append, List.cons_append, next_run hfirst hquote]
    simp only [run, takeWhile_run htail hends, dropWhile_run htail hends, hread]
  | badEscape offset gap hquote value rest hbackslash hfound =>
    have hreads := Quoted.Reads.badEscape value rest hbackslash hfound
    rw [next_spaces_append, next_quote hquote]
    simp only [quoted, hreads.read_eq hquote.ne.1]
  | unterminated offset gap hquote hreads =>
    rw [next_spaces_append, next_quote hquote]
    simp only [quoted, hreads.read_eq hquote.ne.1]

/-! ## Writable tokens -/

/-- A writable token scans back from its text, whatever follows that cannot
lengthen it. -/
theorem next_text {offset : Nat} {token : Token} {rest : List Char}
    (hwritable : token.IsWritable) (hrest : token.isRun = true → EndsRun rest) :
    next ⟨offset, token.text.toList ++ rest⟩ =
      .lexeme ⟨token, ⟨offset, offset + byteLength token.text.toList⟩⟩
        ⟨offset + byteLength token.text.toList, rest⟩ :=
  next_of_writtenBy hwritable.writtenBy_text hrest offset 0

theorem next_isWritable {cursor after : Cursor} {found : Lexeme}
    (hnext : cursor.next = .lexeme found after) : found.token.IsWritable := by
  have hfinds := cursor.next_finds
  rw [hnext] at hfinds
  cases hfinds with
  | lexeme offset gap hwritten hends => exact hwritten.isWritable

/-- Everything that is scanned is writable. -/
theorem isWritable_of_yields {cursor : Cursor} {tokens : List Token}
    {rest : Ahead} (hyields : cursor.ahead.Yields tokens rest) :
    ∀ token ∈ tokens, token.IsWritable := by
  induction tokens generalizing cursor with
  | nil => simp
  | cons token tokens ih =>
    obtain ⟨found, behind, hahead, rfl, hbehind⟩ :=
      Ahead.yields_cons_iff.mp hyields
    obtain ⟨after, hnext, rfl⟩ := next_of_ahead_lexeme hahead
    intro t ht
    rcases List.mem_cons.mp ht with rfl | ht
    · exact next_isWritable hnext
    · exact ih hbehind t ht

end Cursor

/-! ## Single tokens -/

theorem EndsRun.nil : EndsRun [] := by
  simp [EndsRun]

theorem EndsRun.space (text : List Char) : EndsRun (' ' :: text) := by
  simp [EndsRun, isRunChar]

theorem endsRun_spaces (gap : Nat) : EndsRun (spaces gap) := by
  cases gap with
  | zero => exact .nil
  | succ gap => exact .space (spaces gap)

/-- A text consists of one token when, spaces apart, it is written so. -/
theorem Token.single?_eq_some_iff {text : String} {token : Token} :
    single? text = some token ↔ ∃ front chars back,
      text.toList = spaces front ++ (chars ++ spaces back) ∧
        token.WrittenBy chars := by
  constructor
  · intro hsingle
    unfold single? at hsingle
    have hfinds := (Cursor.ofText text).next_finds
    have hrest : (Cursor.ofText text).rest = text.toList := rfl
    generalize Cursor.ofText text = cursor at hsingle hfinds hrest
    split at hsingle
    next found after hnext =>
      rw [hnext] at hfinds
      split at hsingle
      next hdone =>
        obtain ⟨back, hback⟩ := Cursor.next_eq_done_iff.mp hdone
        cases hfinds with
        | @lexeme offset front token chars rest hwritten hends =>
          obtain rfl := Option.some.inj hsingle
          obtain rfl : rest = spaces back := hback
          exact ⟨front, chars, back, hrest.symm, hwritten⟩
      next => cases hsingle
    next => cases hsingle
  · rintro ⟨front, chars, back, htext, hwritten⟩
    have hnext := Cursor.next_of_writtenBy hwritten
      (fun _ => endsRun_spaces back) 0 front
    have hdone : Cursor.next ⟨0 + front + byteLength chars, spaces back⟩ = .done :=
      Cursor.next_eq_done_iff.mpr ⟨back, rfl⟩
    rw [← htext] at hnext
    simp only [single?, Cursor.ofText, hnext, hdone]

theorem Token.WrittenBy.single? {token : Token} {chars : List Char}
    (hwritten : token.WrittenBy chars) :
    Token.single? (String.ofList chars) = some token :=
  Token.single?_eq_some_iff.mpr ⟨0, chars, 0, by simp, hwritten⟩

end FilterLanguage
