import FilterLanguage.Text.Blank
import Mathlib.Data.List.DropRight

/-!
# White space at the end

Trimming keeps all that stands in front of a character that is no white space.
So whether two texts are equal up to white space at the end does not change when
something is put in front of both.
-/

namespace FilterLanguage

variable {front text text' : List Char}

@[simp] theorem trimEnd_nil : trimEnd [] = [] := rfl

theorem trimEnd_append (front text : List Char) :
    trimEnd (front ++ text) =
      if trimEnd text = [] then trimEnd front else front ++ trimEnd text := by
  simp only [trimEnd, List.reverse_append, List.dropWhile_append,
    List.isEmpty_iff, List.reverse_eq_nil_iff]
  split
  next => rfl
  next => rw [List.reverse_append, List.reverse_reverse]

theorem trimEnd_append_of_ne_nil (front : List Char)
    (htext : trimEnd text ≠ []) :
    trimEnd (front ++ text) = front ++ trimEnd text := by
  rw [trimEnd_append, if_neg htext]

theorem trimEnd_append_of_eq_nil (front : List Char)
    (htext : trimEnd text = []) :
    trimEnd (front ++ text) = trimEnd front := by
  rw [trimEnd_append, if_pos htext]

theorem trimEnd_isPrefix (text : List Char) : trimEnd text <+: text :=
  List.rdropWhile_prefix isBlank text

theorem trimEnd_trimEnd (text : List Char) :
    trimEnd (trimEnd text) = trimEnd text :=
  List.rdropWhile_idempotent isBlank text

theorem trimEnd_cons {c : Char} (hc : isBlank c = false) (text : List Char) :
    trimEnd (c :: text) = c :: trimEnd text := by
  have hsingle : trimEnd [c] = [c] := by simp [trimEnd, hc]
  by_cases htext : trimEnd text = []
  · rw [htext, ← hsingle]
    exact trimEnd_append_of_eq_nil [c] htext
  · exact trimEnd_append_of_ne_nil [c] htext

theorem trimEnd_append_of_forall (hfront : ∀ c ∈ front, isBlank c = false)
    (text : List Char) : trimEnd (front ++ text) = front ++ trimEnd text := by
  induction front with
  | nil => rfl
  | cons c front ih =>
    obtain ⟨hc, hrest⟩ := List.forall_mem_cons.mp hfront
    rw [List.cons_append, trimEnd_cons hc, ih hrest, List.cons_append]

theorem trimEnd_eq_self (htext : ∀ c ∈ text, isBlank c = false) :
    trimEnd text = text := by
  have happend := trimEnd_append_of_forall htext []
  rwa [List.append_nil, trimEnd_nil, List.append_nil] at happend

theorem forall_isBlank_of_any (htext : text.any isBlank = false) :
    ∀ c ∈ text, isBlank c = false := by
  intro c hc
  exact Bool.eq_false_iff.mpr (List.any_eq_false.mp htext c hc)

theorem isBlank_of_isDigit {c : Char} (hc : c.isDigit = true) :
    isBlank c = false := by
  have hbounds : 48 ≤ c.toNat ∧ c.toNat ≤ 57 := by
    simpa [Char.isDigit, UInt32.le_iff_toNat_le] using hc
  have houtside : ∀ range ∈ blankRanges,
      ¬ (range.1 ≤ c.toNat ∧ c.toNat ≤ range.2) := by
    simp only [blankRanges, List.forall_mem_cons, List.not_mem_nil,
      false_imp_iff, implies_true, and_true]
    omega
  simpa [isBlank, CharRanges.has] using houtside

/-- What stands in front of both texts does not matter. -/
theorem trimEnd_append_cancel (front : List Char) :
    trimEnd (front ++ text) = trimEnd (front ++ text') ↔
      trimEnd text = trimEnd text' := by
  have hkept : ∀ rest, rest ≠ [] → trimEnd front ≠ front ++ rest := by
    intro rest hrest heq
    have hlength := (trimEnd_isPrefix front).length_le
    rw [heq, List.length_append] at hlength
    have hpos := List.length_pos_iff.mpr hrest
    omega
  rw [trimEnd_append, trimEnd_append]
  by_cases htext : trimEnd text = [] <;> by_cases htext' : trimEnd text' = []
  · simp [htext, htext']
  · simp [htext, htext', hkept _ htext', Ne.symm htext']
  · simp [htext, htext', (hkept _ htext).symm]
  · simp [htext, htext']

end FilterLanguage
