import FilterLanguage.Text.Quoted

/-!
# Quoted texts are read back

One equation for each way in which the body of a literal can go on, and from
them: an escaped text is passed over, whatever stands behind it.  Conversely an
escaped text stands in front of whatever ends the reading, so a body goes on in
one way and no other.
-/

namespace FilterLanguage
namespace Quoted

theorem read_quote (quote : Char) (rest : List Char) :
    read quote (quote :: rest) = .closed [] quote.utf8Size rest := by
  rw [read.eq_def]
  simp

theorem read_escaped {quote c : Char} (hquote : quote ≠ '\\')
    (hc : c = '\\' ∨ c = quote) (rest : List Char) :
    read quote ('\\' :: c :: rest) =
      (read quote rest).behind c (1 + c.utf8Size) := by
  rw [read.eq_def]
  simp [hquote.symm, hc]

theorem read_plain {quote c : Char} (hbackslash : c ≠ '\\') (hc : c ≠ quote)
    (rest : List Char) :
    read quote (c :: rest) = (read quote rest).behind c c.utf8Size := by
  rw [read.eq_def]
  simp [hbackslash, hc]

theorem read_unescapable {quote found : Char} (hquote : quote ≠ '\\')
    (hbackslash : found ≠ '\\') (hfound : found ≠ quote) (rest : List Char) :
    read quote ('\\' :: found :: rest) = .badEscape 0 found := by
  rw [read.eq_def]
  simp [hquote.symm, hbackslash, hfound]

theorem read_backslash {quote : Char} (hquote : quote ≠ '\\') :
    read quote ['\\'] = .unterminated := by
  rw [read.eq_def]
  simp [hquote.symm]

/-- The same body behind the escaped text of a value. -/
def Body.behindEscaped (quote : Char) (front : List Char) : Body → Body
  | .closed value size rest =>
    .closed (front ++ value) (byteLength (escape quote front) + size) rest
  | .badEscape offset found =>
    .badEscape (byteLength (escape quote front) + offset) found
  | .unterminated => .unterminated

theorem Body.behind_behindEscaped {quote c : Char} {front : List Char} {n : Nat}
    (hsize : byteLength (escape quote (c :: front)) =
      n + byteLength (escape quote front)) (body : Body) :
    (body.behindEscaped quote front).behind c n =
      body.behindEscaped quote (c :: front) := by
  cases body <;> simp [behind, behindEscaped, hsize, Nat.add_assoc]

/-- An escaped text is passed over, whatever stands behind it. -/
theorem read_escape_append {quote : Char} (hquote : quote ≠ '\\')
    (front text : List Char) :
    read quote (escape quote front ++ text) =
      (read quote text).behindEscaped quote front := by
  induction front with
  | nil =>
    rw [escape, List.nil_append]
    cases read quote text <;> simp [Body.behindEscaped, escape]
  | cons c front ih =>
    by_cases hescaped : c = '\\' ∨ c = quote
    · have hescape : escape quote (c :: front) =
          '\\' :: c :: escape quote front := by rw [escape, if_pos hescaped]
      have hbackslash : ('\\' : Char).utf8Size = 1 := rfl
      rw [hescape, List.cons_append, List.cons_append,
        read_escaped hquote hescaped, ih]
      apply Body.behind_behindEscaped
      simp [hescape, hbackslash, Nat.add_assoc]
    · have hescape : escape quote (c :: front) = c :: escape quote front := by
        rw [escape, if_neg hescaped]
      obtain ⟨hplain, hother⟩ := not_or.mp hescaped
      rw [hescape, List.cons_append, read_plain hplain hother, ih]
      apply Body.behind_behindEscaped
      simp [hescape]

theorem read_escape {quote : Char} (hquote : quote ≠ '\\')
    (value rest : List Char) :
    read quote (escape quote value ++ quote :: rest) =
      .closed value (byteLength (escape quote value) + quote.utf8Size) rest := by
  rw [read_escape_append hquote, read_quote]
  simp [Body.behindEscaped]

/-- How a body goes on: behind an escaped text there stands the closing quote, a
bad escape, or nothing but perhaps a last backslash. -/
inductive Reads (quote : Char) : List Char → Body → Prop
  | closed (value rest : List Char) :
      Reads quote (escape quote value ++ quote :: rest)
        (.closed value (byteLength (escape quote value) + quote.utf8Size) rest)
  | badEscape (value : List Char) {found : Char} (rest : List Char)
      (hbackslash : found ≠ '\\') (hquote : found ≠ quote) :
      Reads quote (escape quote value ++ '\\' :: found :: rest)
        (.badEscape (byteLength (escape quote value)) found)
  | unterminated (value : List Char) :
      Reads quote (escape quote value) .unterminated
  | lastBackslash (value : List Char) :
      Reads quote (escape quote value ++ ['\\']) .unterminated

theorem Reads.behind {quote c : Char} {text front : List Char} {body : Body}
    (hreads : Reads quote text body)
    (hescape : ∀ value, escape quote (c :: value) = front ++ escape quote value) :
    Reads quote (front ++ text) (body.behind c (byteLength front)) := by
  cases hreads with
  | closed value rest =>
    have hclosed : Reads quote _ _ := .closed (c :: value) rest
    rw [hescape] at hclosed
    simpa [Body.behind, Nat.add_assoc] using hclosed
  | badEscape value rest hbackslash hquote =>
    have hbad := Reads.badEscape (c :: value) rest hbackslash hquote
    rw [hescape] at hbad
    simpa [Body.behind] using hbad
  | unterminated value =>
    have hopen : Reads quote _ _ := .unterminated (c :: value)
    rwa [hescape] at hopen
  | lastBackslash value =>
    have hopen : Reads quote _ _ := .lastBackslash (c :: value)
    rw [hescape] at hopen
    simpa [Body.behind] using hopen

theorem read_reads (quote : Char) (text : List Char) :
    Reads quote text (read quote text) := by
  fun_induction read quote text with
  | case1 => exact .unterminated []
  | case2 rest =>
    have hclosed : Reads quote _ _ := .closed [] rest
    simpa [escape] using hclosed
  | case3 => exact .lastBackslash []
  | case4 escaped rest hescaped _ ih =>
    have hescape : ∀ value, escape quote (escaped :: value) =
        ['\\', escaped] ++ escape quote value := by
      intro value
      rw [escape, if_pos hescaped]
      rfl
    exact ih.behind hescape
  | case5 found rest hfound _ =>
    obtain ⟨hbackslash, hquote⟩ := not_or.mp hfound
    exact .badEscape [] rest hbackslash hquote
  | case6 c rest hquote hbackslash ih =>
    have hescape : ∀ value, escape quote (c :: value) =
        [c] ++ escape quote value := by
      intro value
      rw [escape, if_neg (by simp [hquote, hbackslash])]
      rfl
    exact ih.behind hescape

/-- A text goes on in one way only. -/
theorem Reads.read_eq {quote : Char} (hquote : quote ≠ '\\') {text : List Char}
    {body : Body} (hreads : Reads quote text body) : read quote text = body := by
  cases hreads with
  | closed value rest => exact read_escape hquote value rest
  | badEscape value rest hbackslash hfound =>
    rw [read_escape_append hquote, read_unescapable hquote hbackslash hfound]
    rfl
  | unterminated value =>
    have hread := read_escape_append hquote value []
    rwa [List.append_nil] at hread
  | lastBackslash value =>
    rw [read_escape_append hquote, read_backslash hquote]
    rfl

theorem reads_iff {quote : Char} (hquote : quote ≠ '\\') {text : List Char}
    {body : Body} : Reads quote text body ↔ read quote text = body := by
  constructor
  · exact Reads.read_eq hquote
  · rintro rfl
    exact read_reads quote text

end Quoted
end FilterLanguage
