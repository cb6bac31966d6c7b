import FilterLanguage.Proofs.Token.Step

/-!
# String literals

Escaping is a bijection between values and the texts that a literal can hold, for
either quote.  Behind an opening quote there is an escaped value, and what ends
it decides the outcome: the closing quote, a backslash before a character that
needs none, or the end of the text.  These are all the cases and no two of them
meet.
-/

namespace FilterLanguage

namespace Quoted

variable {quote : Char} {text : List Char}

/-- The text starts with an escaped value and the closing quote. -/
def IsClosed (quote : Char) (value rest text : List Char) : Prop :=
  text = escape quote value ++ quote :: rest

/-- Behind an escaped value, a backslash stands before a character that is
neither a backslash nor the quote. -/
structure HasBadEscape (quote : Char) (value : List Char) (found : Char)
    (text : List Char) : Prop where
  ne_backslash : found ≠ '\\'
  ne_quote : found ≠ quote
  starts : escape quote value ++ ['\\', found] <+: text

/-- The text is an escaped value, with one more backslash behind it or not. -/
def IsOpen (quote : Char) (text : List Char) : Prop :=
  ∃ value, text = escape quote value ∨ text = escape quote value ++ ['\\']

theorem read_eq_closed_iff (hquote : quote ≠ '\\') {value rest : List Char}
    {size : Nat} :
    read quote text = .closed value size rest ↔
      IsClosed quote value rest text ∧
        size = byteLength (escape quote value) + quote.utf8Size := by
  rw [← reads_iff hquote]
  constructor
  · intro hreads
    cases hreads with
    | closed value rest => exact ⟨rfl, rfl⟩
  · rintro ⟨rfl, rfl⟩
    exact .closed value rest

theorem read_eq_badEscape_iff (hquote : quote ≠ '\\') {found : Char}
    {offset : Nat} :
    read quote text = .badEscape offset found ↔
      ∃ value, HasBadEscape quote value found text ∧
        offset = byteLength (escape quote value) := by
  rw [← reads_iff hquote]
  constructor
  · intro hreads
    cases hreads with
    | badEscape value rest hbackslash hfound =>
      exact ⟨value, ⟨hbackslash, hfound, rest, by simp⟩, rfl⟩
  · rintro ⟨value, ⟨hbackslash, hfound, rest, rfl⟩, rfl⟩
    rw [List.append_assoc]
    exact .badEscape value rest hbackslash hfound

theorem read_eq_unterminated_iff (hquote : quote ≠ '\\') :
    read quote text = .unterminated ↔ IsOpen quote text := by
  rw [← reads_iff hquote]
  constructor
  · intro hreads
    cases hreads with
    | unterminated value => exact ⟨value, .inl rfl⟩
    | lastBackslash value => exact ⟨value, .inr rfl⟩
  · rintro ⟨value, rfl | rfl⟩
    · exact .unterminated value
    · exact .lastBackslash value

theorem isClosed_or_hasBadEscape_or_isOpen (hquote : quote ≠ '\\')
    (text : List Char) :
    (∃ value rest, IsClosed quote value rest text) ∨
      (∃ value found, HasBadEscape quote value found text) ∨
        IsOpen quote text := by
  cases hread : read quote text with
  | closed value size rest =>
    exact .inl ⟨value, rest, ((read_eq_closed_iff hquote).mp hread).1⟩
  | badEscape offset found =>
    obtain ⟨value, hbad, -⟩ := (read_eq_badEscape_iff hquote).mp hread
    exact .inr (.inl ⟨value, found, hbad⟩)
  | unterminated => exact .inr (.inr ((read_eq_unterminated_iff hquote).mp hread))

theorem IsClosed.not_hasBadEscape {value rest value' : List Char} {found : Char}
    (hquote : quote ≠ '\\') (hclosed : IsClosed quote value rest text) :
    ¬ HasBadEscape quote value' found text := by
  intro hbad
  have hread := (read_eq_closed_iff hquote).mpr ⟨hclosed, rfl⟩
  rw [(read_eq_badEscape_iff hquote).mpr ⟨value', hbad, rfl⟩] at hread
  cases hread

theorem IsClosed.not_isOpen {value rest : List Char} (hquote : quote ≠ '\\')
    (hclosed : IsClosed quote value rest text) : ¬ IsOpen quote text := by
  intro hopen
  have hread := (read_eq_closed_iff hquote).mpr ⟨hclosed, rfl⟩
  rw [(read_eq_unterminated_iff hquote).mpr hopen] at hread
  cases hread

theorem HasBadEscape.not_isOpen {value : List Char} {found : Char}
    (hquote : quote ≠ '\\') (hbad : HasBadEscape quote value found text) :
    ¬ IsOpen quote text := by
  intro hopen
  have hread := (read_eq_badEscape_iff hquote).mpr ⟨value, hbad, rfl⟩
  rw [(read_eq_unterminated_iff hquote).mpr hopen] at hread
  cases hread

end Quoted

namespace Cursor

open Quoted

variable {quote : Char}

theorem quoted_eq_lexeme_iff (hquote : IsQuote quote) {offset : Nat}
    {text : List Char} {found : Lexeme} {after : Cursor} :
    quoted offset quote text = .lexeme found after ↔
      ∃ value rest, IsClosed quote value rest text ∧
        found = ⟨.literal (.string (String.ofList value)),
          ⟨offset, after.offset⟩⟩ ∧
        after =
          ⟨offset + 1 + byteLength (escape quote value ++ [quote]), rest⟩ := by
  have hsize := hquote.utf8Size
  constructor
  · intro hscan
    unfold quoted at hscan
    split at hscan
    next value size rest hread =>
      obtain ⟨hclosed, rfl⟩ := (read_eq_closed_iff hquote.ne.1).mp hread
      cases hscan
      exact ⟨value, rest, hclosed, rfl, by simp⟩
    next => cases hscan
    next => cases hscan
  · rintro ⟨value, rest, hclosed, rfl, rfl⟩
    have hread := (read_eq_closed_iff hquote.ne.1).mpr ⟨hclosed, rfl⟩
    simp [quoted, hread]

theorem quoted_eq_badEscape_iff (hquote : IsQuote quote) {offset : Nat}
    {text : List Char} {e : ParseError} {after : Cursor} :
    quoted offset quote text = .error e after ∧ e.kind = .invalidEscape ↔
      ∃ value found, HasBadEscape quote value found text ∧
        e = .found .invalidEscape
          ⟨offset + 1 + byteLength (escape quote value),
            offset + 1 + byteLength (escape quote value ++ ['\\', found])⟩
          ("`" ++ String.singleton found ++ "`") ∧
        after = ⟨offset + 1, text⟩ := by
  have hbackslash : ('\\' : Char).utf8Size = 1 := rfl
  constructor
  · rintro ⟨hscan, hkind⟩
    unfold quoted at hscan
    split at hscan
    next => cases hscan
    next place found hread =>
      obtain ⟨value, hbad, rfl⟩ := (read_eq_badEscape_iff hquote.ne.1).mp hread
      cases hscan
      exact ⟨value, found, hbad, by simp [hbackslash, Nat.add_assoc], rfl⟩
    next =>
      cases hscan
      cases hkind
  · rintro ⟨value, found, hbad, rfl, rfl⟩
    have hread := (read_eq_badEscape_iff hquote.ne.1).mpr ⟨value, hbad, rfl⟩
    refine ⟨?_, rfl⟩
    simp [quoted, hread, hbackslash, Nat.add_assoc]

theorem quoted_eq_unterminated_iff (hquote : IsQuote quote) {offset : Nat}
    {text : List Char} {e : ParseError} {after : Cursor} :
    quoted offset quote text = .error e after ∧ e.kind = .unterminatedString ↔
      IsOpen quote text ∧
        e = .ofKind .unterminatedString ⟨offset, offset + 1 + byteLength text⟩ ∧
        after = ⟨offset + 1, text⟩ := by
  constructor
  · rintro ⟨hscan, hkind⟩
    unfold quoted at hscan
    split at hscan
    next => cases hscan
    next =>
      cases hscan
      cases hkind
    next hread =>
      cases hscan
      exact ⟨(read_eq_unterminated_iff hquote.ne.1).mp hread, rfl, rfl⟩
  · rintro ⟨hopen, rfl, rfl⟩
    have hread := (read_eq_unterminated_iff hquote.ne.1).mpr hopen
    refine ⟨?_, rfl⟩
    simp [quoted, hread]

/-- Behind an opening quote the scanner finds the literal of the value whose
escaped text and closing quote stand there, and goes on behind them.  It fails
at a bad escape, which it spans, or at the end of the text, spanning all of the
literal.  Every text is of one of these kinds and of one only.  So the text of a
literal is scanned to its value, whatever follows. -/
theorem next_decodes_string (hquote : IsQuote quote) (offset : Nat)
    (text : List Char) :
    let outcome := next ⟨offset, quote :: text⟩
    let body := offset + 1
    (∀ found after, outcome = .lexeme found after ↔
      ∃ value rest, IsClosed quote value rest text ∧
        found = ⟨.literal (.string (String.ofList value)),
          ⟨offset, after.offset⟩⟩ ∧
        after = ⟨body + byteLength (escape quote value ++ [quote]), rest⟩) ∧
    (∀ e after, outcome = .error e after ∧ e.kind = .invalidEscape ↔
      ∃ value found, HasBadEscape quote value found text ∧
        e = .found .invalidEscape
          ⟨body + byteLength (escape quote value),
            body + byteLength (escape quote value ++ ['\\', found])⟩
          ("`" ++ String.singleton found ++ "`") ∧
        after = ⟨body, text⟩) ∧
    (∀ e after, outcome = .error e after ∧ e.kind = .unterminatedString ↔
      IsOpen quote text ∧
        e = .ofKind .unterminatedString ⟨offset, body + byteLength text⟩ ∧
        after = ⟨body, text⟩) ∧
    ((∃ value rest, IsClosed quote value rest text) ∨
      (∃ value found, HasBadEscape quote value found text) ∨
        IsOpen quote text) ∧
    (∀ value rest, IsClosed quote value rest text →
      (∀ value' found, ¬ HasBadEscape quote value' found text) ∧
        ¬ IsOpen quote text) ∧
    (∀ value found, HasBadEscape quote value found text →
      ¬ IsOpen quote text) ∧
    (∀ (value : String) (suffix : List Char),
      let written := (Literal.string value).text.toList
      let stop := offset + byteLength written
      next ⟨offset, written ++ suffix⟩ =
        .lexeme ⟨.literal (.string value), ⟨offset, stop⟩⟩ ⟨stop, suffix⟩) := by
  intro outcome body
  have hbackslash := hquote.ne.1
  have houtcome : outcome = quoted offset quote text :=
    next_quote hquote offset text
  rw [houtcome]
  refine ⟨fun _ _ => quoted_eq_lexeme_iff hquote,
    fun _ _ => quoted_eq_badEscape_iff hquote,
    fun _ _ => quoted_eq_unterminated_iff hquote,
    isClosed_or_hasBadEscape_or_isOpen hbackslash text, ?_, ?_, ?_⟩
  · intro value rest hclosed
    exact ⟨fun _ _ => hclosed.not_hasBadEscape hbackslash,
      hclosed.not_isOpen hbackslash⟩
  · intro value found hbad
    exact hbad.not_isOpen hbackslash
  · intro value suffix
    have hwritable : (Token.literal (.string value)).IsWritable := trivial
    have hscan : next ⟨offset, _ ++ suffix⟩ = _ :=
      next_text hwritable (by simp [Token.isRun])
    rw [Token.text] at hscan
    exact hscan

/-- In single quotes: an escaped quote and an escaped backslash before the closing
quote, a bad escape of the other quote, and a last backslash. -/
theorem next_decodes_string_single :
    next ⟨3, "'it\\'s \\\\' x".toList⟩ =
        .lexeme ⟨.literal (.string "it's \\"), ⟨3, 13⟩⟩ ⟨13, " x".toList⟩ ∧
      next ⟨0, "'a\\\"b'".toList⟩ =
        .error (.found .invalidEscape ⟨2, 4⟩ "`\"`") ⟨1, "a\\\"b'".toList⟩ ∧
      next ⟨0, "'b\\".toList⟩ =
        .error (.ofKind .unterminatedString ⟨0, 3⟩) ⟨1, "b\\".toList⟩ := by
  have hquote : IsQuote '\'' := .inr rfl
  refine ⟨?_, ?_, ?_⟩
  · exact ((next_decodes_string hquote 3 _).1 _ _).mpr
      ⟨"it's \\".toList, " x".toList, rfl, rfl, rfl⟩
  · have hbad : HasBadEscape '\'' ['a'] '"' "a\\\"b'".toList :=
      ⟨by decide, by decide, by decide⟩
    exact (((next_decodes_string hquote 0 _).2.1 _ _).mpr
      ⟨['a'], '"', hbad, rfl, rfl⟩).1
  · have hopen : IsOpen '\'' "b\\".toList := ⟨['b'], .inr rfl⟩
    exact (((next_decodes_string hquote 0 _).2.2.1 _ _).mpr
      ⟨hopen, rfl, rfl⟩).1

end Cursor

end FilterLanguage
