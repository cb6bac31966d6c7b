import FilterLanguage.Text.Span

/-!
# Quoted texts

A string literal stands between two equal quotes.  Inside, a backslash is
written before every backslash and before every quote of that kind, and before
nothing else.
-/

namespace FilterLanguage
namespace Quoted

/-- The text with a backslash before each backslash and each `quote`. -/
def escape (quote : Char) : List Char → List Char
  | [] => []
  | c :: rest =>
    if c = '\\' ∨ c = quote then '\\' :: c :: escape quote rest
    else c :: escape quote rest

/-- What follows an opening quote.  Counts are bytes from behind that quote. -/
inductive Body where
  | closed (value : List Char) (size : Nat) (rest : List Char)
  /-- A backslash at `offset` stands before a character that needs none. -/
  | badEscape (offset : Nat) (found : Char)
  | unterminated

/-- The same body behind one more character, written in `size` bytes. -/
def Body.behind (c : Char) (size : Nat) : Body → Body
  | .closed value n rest => .closed (c :: value) (size + n) rest
  | .badEscape offset found => .badEscape (size + offset) found
  | .unterminated => .unterminated

def read (quote : Char) : List Char → Body
  | [] => .unterminated
  | c :: rest =>
    if c = quote then .closed [] c.utf8Size rest
    else if c = '\\' then
      match rest with
      | [] => .unterminated
      | escaped :: rest =>
        if escaped = '\\' ∨ escaped = quote then
          (read quote rest).behind escaped (1 + escaped.utf8Size)
        else .badEscape 0 escaped
    else (read quote rest).behind c c.utf8Size

theorem Body.closed_of_behind {c : Char} {n size : Nat} {body : Body}
    {value rest : List Char} (h : body.behind c n = .closed value size rest) :
    ∃ value' size', body = .closed value' size' rest := by
  cases body <;> simp_all [Body.behind]

theorem read_rest_length {quote : Char} {text value rest : List Char}
    {size : Nat} (h : read quote text = .closed value size rest) :
    rest.length < text.length := by
  fun_induction read quote text generalizing value size with
  | case1 => simp at h
  | case2 => simp_all
  | case3 => simp at h
  | case4 _ tail _ _ ih =>
    obtain ⟨_, _, hread⟩ := Body.closed_of_behind h
    have := ih hread
    simp only [List.length_cons]
    omega
  | case5 => simp at h
  | case6 _ tail _ _ ih =>
    obtain ⟨_, _, hread⟩ := Body.closed_of_behind h
    have := ih hread
    simp only [List.length_cons]
    omega

end Quoted
end FilterLanguage
