import FilterLanguage.Proofs.Group.Moved
import Mathlib.Tactic.IntervalCases

/-!
# Spacing

Texts of single tokens are joined with spaces before, between and after them.
Where two runs would grow together at least one space has to stand.  Then the
tokens are scanned back whatever the spacing is, and so the same filter is
parsed, or the same error is found.
-/

namespace FilterLanguage

/-- The texts with `gap 0` spaces before the first, `gap 1` before the second,
and so on; the last gap is behind all of them. -/
def layOut (gap : Nat → Nat) : List String → List Char
  | [] => spaces (gap 0)
  | text :: texts =>
    spaces (gap 0) ++ (text.toList ++ layOut (fun i => gap (i + 1)) texts)

/-- Two neighbours may touch only if the first is a parenthesis or a string
literal or the second is a parenthesis. -/
def Separates (gap : Nat → Nat) (tokens : List Token) : Prop :=
  ∀ i s t, tokens[i]? = some s → tokens[i + 1]? = some t → gap (i + 1) = 0 →
    s.isRun = false ∨ t.isParenthesis = true

theorem Separates.tail {gap : Nat → Nat} {token : Token} {tokens : List Token}
    (hseparates : Separates gap (token :: tokens)) :
    Separates (fun i => gap (i + 1)) tokens := by
  intro i s t hs ht hgap
  exact hseparates (i + 1) s t hs ht hgap

theorem EndsRun.of_spaces {text : List Char} (htext : EndsRun text)
    (count : Nat) : EndsRun (spaces count ++ text) := by
  cases count with
  | zero => exact htext
  | succ count => exact .space (spaces count ++ text)

theorem Token.isRun_of_isParenthesis {token : Token}
    (hparenthesis : token.isParenthesis = true) : token.isRun = false := by
  cases token with
  | groupBegin => rfl
  | groupEnd => rfl
  | literal | reference | connective => cases hparenthesis

theorem Token.WrittenBy.endsRun {token : Token} {chars : List Char}
    (hwritten : token.WrittenBy chars) (hparenthesis : token.isParenthesis = true)
    (rest : List Char) : EndsRun (chars ++ rest) := by
  cases hwritten with
  | groupBegin => simp [EndsRun, isRunChar]
  | groupEnd => simp [EndsRun, isRunChar]
  | string => cases hparenthesis
  | run hreads =>
    have hrun := hreads.isRun
    rw [isRun_of_isParenthesis hparenthesis] at hrun
    cases hrun

/-- A run stops before the next text of a layout. -/
theorem Separates.endsRun {gap : Nat → Nat} {token : Token}
    {texts : List String} {tokens : List Token}
    (hseparates : Separates gap (token :: tokens))
    (htexts : texts.map Token.single? = tokens.map some)
    (hrun : token.isRun = true) :
    EndsRun (layOut (fun i => gap (i + 1)) texts) := by
  cases texts with
  | nil => exact endsRun_spaces (gap 1)
  | cons text texts =>
    cases tokens with
    | nil => cases htexts
    | cons next tokens =>
      obtain ⟨hsingle, -⟩ := List.cons.inj htexts
      obtain ⟨front, chars, back, htext, hwritten⟩ :=
        Token.single?_eq_some_iff.mp hsingle
      simp only [layOut]
      by_cases hgap : gap 1 = 0
      · have hnext : next.isParenthesis = true := by
          rcases hseparates 0 token next rfl rfl hgap with hclosed | hnext
          · rw [hrun] at hclosed
            cases hclosed
          · exact hnext
        rw [hgap, htext, List.append_assoc, List.append_assoc]
        exact (hwritten.endsRun hnext _).of_spaces front
      · obtain ⟨count, hcount⟩ := Nat.exists_eq_succ_of_ne_zero hgap
        rw [hcount]
        exact .space _

/-- The spaces behind a text are passed over together with the gap that follows
it: `before` of them are still to come. -/
theorem yields_layOut {texts : List String} {tokens : List Token}
    (htexts : texts.map Token.single? = tokens.map some) {gap : Nat → Nat}
    (hseparates : Separates gap tokens) (offset before : Nat) :
    (Cursor.mk offset (spaces before ++ layOut gap texts)).ahead.Yields tokens
      .ended := by
  induction texts generalizing tokens gap offset before with
  | nil =>
    cases tokens with
    | cons token tokens => cases htexts
    | nil =>
      refine Ahead.yields_nil_iff.mpr (Cursor.ahead_of_done ?_)
      exact Cursor.next_eq_done_iff.mpr
        ⟨before + gap 0, (spaces_add before (gap 0)).symm⟩
  | cons text texts ih =>
    cases tokens with
    | nil => cases htexts
    | cons token tokens =>
      obtain ⟨hsingle, hrest⟩ := List.cons.inj htexts
      obtain ⟨front, chars, back, htext, hwritten⟩ :=
        Token.single?_eq_some_iff.mp hsingle
      have hends : token.isRun = true → EndsRun
          (spaces back ++ layOut (fun i => gap (i + 1)) texts) := by
        intro hrun
        exact (hseparates.endsRun hrest hrun).of_spaces back
      have hlayOut : spaces before ++ layOut gap (text :: texts) =
          spaces (before + gap 0 + front) ++
            (chars ++ (spaces back ++ layOut (fun i => gap (i + 1)) texts)) := by
        simp only [layOut, htext, spaces_add, List.append_assoc]
      rw [hlayOut,
        Cursor.ahead_of_lexeme (Cursor.next_of_writtenBy hwritten hends _ _)]
      exact ⟨rfl, ih hrest hseparates.tail _ back⟩

/-- However texts of single tokens are spaced, if no two of them run together,
they scan to the tokens, and what they parse to is the same. -/
theorem spacing_irrelevant {texts : List String} {tokens : List Token}
    (htexts : texts.map Token.single? = tokens.map some) :
    (∀ gap, Separates gap tokens →
      (Cursor.ofText (String.ofList (layOut gap texts))).Scans tokens) ∧
    (∀ (limit : Option Nat) (gap gap' : Nat → Nat),
      Separates gap tokens → Separates gap' tokens →
      SameOutcome
        (Group.parseWithin limit (String.ofList (layOut gap texts)))
        (Group.parseWithin limit (String.ofList (layOut gap' texts)))) := by
  have hscans : ∀ gap, Separates gap tokens →
      (Cursor.ofText (String.ofList (layOut gap texts))).Scans tokens := by
    intro gap hseparates
    have hyields := yields_layOut htexts hseparates 0 0
    rw [Cursor.scans_iff_yields, Cursor.ofText, String.toList_ofList]
    exact hyields
  refine ⟨hscans, ?_⟩
  intro limit gap gap' hgap hgap'
  exact Group.sameOutcome_of_scans (hscans gap hgap) (hscans gap' hgap') limit

theorem spacing_irrelevant_tight :
    let texts := ["(", "'é ('", "eq", "x", ")", "OR", "true", "is"]
    let tokens : List Token :=
      [.groupBegin, .literal (.string "é ("), .reference "eq", .reference "x",
        .groupEnd, .connective .or, .literal (.boolean true), .reference "is"]
    let tight := fun i => if i ∈ [3, 6, 7] then 1 else 0
    let g : Group Statement :=
      .nested (.statement
          ⟨.literal (.string "é ("), "eq", some (.reference "x")⟩ .empty)
        (.connective .or (.statement ⟨.literal (.boolean true), "is", none⟩
          .empty))
    String.ofList (layOut tight texts) = "('é ('eq x)OR true is" ∧
      texts.map Token.single? = tokens.map some ∧
      Separates tight tokens ∧ Separates (fun _ => 2) tokens ∧
      (Cursor.ofText "('é ('eq x)OR true is").Scans tokens ∧
      Group.parseWithin none "('é ('eq x)OR true is" = .ok g ∧
      SameOutcome (Group.parseWithin none "('é ('eq x)OR true is")
        (Group.parseWithin none
          (String.ofList (layOut (fun _ => 2) texts))) := by
  intro texts tokens tight g
  have htext : String.ofList (layOut tight texts) = "('é ('eq x)OR true is" := by
    decide +kernel
  have htexts : texts.map Token.single? = tokens.map some := by
    decide +kernel
  have htight : Separates tight tokens := by
    intro i s t hs ht hgap
    have hlt : i < 7 :=
      Nat.lt_of_succ_lt_succ (List.getElem?_eq_some_iff.mp ht).1
    interval_cases i <;> cases hs <;> cases ht <;> revert hgap <;> decide
  have hwide : Separates (fun _ => 2) tokens := by
    intro i s t hs ht hgap
    cases hgap
  have hparse : Group.parseWithin none "('é ('eq x)OR true is" = .ok g := by
    decide +kernel
  have hspacing := spacing_irrelevant htexts
  refine ⟨htext, htexts, htight, hwide, ?_, hparse, ?_⟩
  · rw [← htext]
    exact hspacing.1 tight htight
  · rw [← htext]
    exact hspacing.2 none tight (fun _ => 2) htight hwide

end FilterLanguage
