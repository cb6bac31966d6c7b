/-!
# Parts of a text

A separator cuts a text into parts, one more than there are separators; a part
may be empty.  Main statements: no part holds a separator, and the parts with
separators between them are the text again.
-/

namespace FilterLanguage

def parts (separator : Char) : List Char → List (List Char)
  | [] => [[]]
  | c :: rest =>
    if c = separator then [] :: parts separator rest
    else
      match parts separator rest with
      | part :: more => (c :: part) :: more
      | [] => [[c]]

theorem parts_ne_nil (separator : Char) (text : List Char) :
    parts separator text ≠ [] := by
  cases text with
  | nil => simp [parts]
  | cons c rest =>
    simp only [parts]
    split
    · simp
    · split <;> simp

theorem separator_not_mem_part {separator : Char} {text part : List Char}
    (hpart : part ∈ parts separator text) : separator ∉ part := by
  induction text generalizing part with
  | nil =>
    have hnil : part = [] := by simpa [parts] using hpart
    simp [hnil]
  | cons c rest ih =>
    simp only [parts] at hpart
    split at hpart
    · rcases List.mem_cons.1 hpart with hnil | hmore
      · simp [hnil]
      · exact ih hmore
    · rename_i hc
      split at hpart
      · rename_i first more hparts
        rcases List.mem_cons.1 hpart with hfirst | hmore
        · have hrest : separator ∉ first := ih (by simp [hparts])
          simp only [hfirst, List.mem_cons, not_or]
          exact ⟨fun h => hc h.symm, hrest⟩
        · exact ih (by simp [hparts, hmore])
      · rename_i hparts
        exact absurd hparts (parts_ne_nil separator rest)

theorem intercalate_parts (separator : Char) (text : List Char) :
    [separator].intercalate (parts separator text) = text := by
  induction text with
  | nil => rfl
  | cons c rest ih =>
    simp only [parts]
    split
    · rename_i hc
      cases hparts : parts separator rest with
      | nil => exact absurd hparts (parts_ne_nil separator rest)
      | cons part more =>
        rw [hparts] at ih
        simp only [List.intercalate, List.intersperse, List.flatten_cons] at ih ⊢
        simp [ih, hc]
    · split
      · rename_i part more hparts
        rw [hparts] at ih
        cases more <;>
          simpa [List.intercalate, List.intersperse] using ih
      · rename_i hparts
        exact absurd hparts (parts_ne_nil separator rest)

end FilterLanguage
