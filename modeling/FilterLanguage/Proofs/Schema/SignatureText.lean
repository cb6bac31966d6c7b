import FilterLanguage.Proofs.Schema.TypeText
import Mathlib.Data.List.Basic

/-!
# Texts of signatures

A signature is read from the runs between the spaces of a text.  `HasRuns` says
which runs these are without reading them off: none is empty, none holds a space,
and each ends at a space or with the text.  Every text has its runs and no
others, and a signature is read just when its own words are these runs and its
tokens can be written.
-/

namespace FilterLanguage

/-- Some characters, none of them a space. -/
structure IsRun (run : List Char) : Prop where
  nonempty : run ≠ []
  noSpace : ' ' ∉ run

/-- The longest runs without a space, in the order of the text. -/
inductive HasRuns : List Char → List (List Char) → Prop
  | nil : HasRuns [] []
  | space {text : List Char} {runs : List (List Char)}
      (hrest : HasRuns text runs) : HasRuns (' ' :: text) runs
  | run {run text : List Char} {runs : List (List Char)} (hrun : IsRun run)
      (hends : ∀ c ∈ text.head?, c = ' ') (hrest : HasRuns text runs) :
      HasRuns (run ++ text) (run :: runs)

/-! ## Runs -/

theorem IsRun.singleton {c : Char} (hc : c ≠ ' ') : IsRun [c] :=
  ⟨List.cons_ne_nil c [], by simpa using hc.symm⟩

theorem IsRun.cons {c : Char} {run : List Char} (hc : c ≠ ' ')
    (hrun : IsRun run) : IsRun (c :: run) := by
  refine ⟨List.cons_ne_nil c run, ?_⟩
  rw [List.mem_cons, not_or]
  exact ⟨hc.symm, hrun.noSpace⟩

theorem spaceRuns_space (text : List Char) :
    spaceRuns (' ' :: text) = spaceRuns text := by
  rw [spaceRuns.eq_def]
  simp

theorem spaceRuns_singleton_append {c : Char} {text : List Char} (hc : c ≠ ' ')
    (hends : ∀ d ∈ text.head?, d = ' ') :
    spaceRuns ([c] ++ text) = [c] :: spaceRuns text := by
  rw [List.singleton_append, spaceRuns.eq_def]
  cases text with
  | nil => simp [hc]
  | cons d text =>
    obtain rfl : d = ' ' := hends d rfl
    cases hruns : spaceRuns (' ' :: text) <;> simp [hc, hruns]

theorem spaceRuns_cons {c d : Char} {text run : List Char}
    {runs : List (List Char)} (hc : c ≠ ' ') (hd : d ≠ ' ')
    (hruns : spaceRuns (d :: text) = run :: runs) :
    spaceRuns (c :: d :: text) = (c :: run) :: runs := by
  rw [spaceRuns.eq_def]
  simp [hc, hd, hruns]

/-- A run stays whole if no more of it follows. -/
theorem spaceRuns_append {run text : List Char} (hrun : IsRun run)
    (hends : ∀ c ∈ text.head?, c = ' ') :
    spaceRuns (run ++ text) = run :: spaceRuns text := by
  obtain ⟨hne, hfree⟩ := hrun
  induction run with
  | nil => exact (hne rfl).elim
  | cons c run ih =>
    rw [List.mem_cons, not_or] at hfree
    obtain ⟨hc, hfree⟩ := hfree
    cases run with
    | nil => exact spaceRuns_singleton_append (Ne.symm hc) hends
    | cons d run =>
      have hd : d ≠ ' ' := by
        rintro rfl
        exact hfree List.mem_cons_self
      have hrest := ih (List.cons_ne_nil d run) hfree
      exact spaceRuns_cons (Ne.symm hc) hd hrest

theorem HasRuns.spaceRuns_eq {text : List Char} {runs : List (List Char)}
    (hruns : HasRuns text runs) : spaceRuns text = runs := by
  induction hruns with
  | nil => rfl
  | space hrest ih => rw [spaceRuns_space, ih]
  | run hrun hends hrest ih => rw [spaceRuns_append hrun hends, ih]

/-- A character other than a space starts a run, or belongs to the one that
follows. -/
theorem exists_hasRuns (text : List Char) : ∃ runs, HasRuns text runs := by
  induction text with
  | nil => exact ⟨[], .nil⟩
  | cons c text ih =>
    obtain ⟨runs, hruns⟩ := ih
    by_cases hc : c = ' '
    · subst hc
      exact ⟨runs, .space hruns⟩
    have hrun := IsRun.singleton hc
    cases hruns with
    | nil => exact ⟨[[c]], .run hrun (by simp) .nil⟩
    | space hrest =>
      exact ⟨_, .run hrun (by simp) (.space hrest)⟩
    | run hnext hends hrest =>
      exact ⟨_, .run (hnext.cons hc) hends hrest⟩

theorem spaceRuns_eq_iff {text : List Char} {runs : List (List Char)} :
    spaceRuns text = runs ↔ HasRuns text runs := by
  constructor
  · obtain ⟨runs', hruns⟩ := exists_hasRuns text
    rintro rfl
    rw [hruns.spaceRuns_eq]
    exact hruns
  · exact HasRuns.spaceRuns_eq

theorem HasRuns.isRun {text : List Char} {runs : List (List Char)}
    (hruns : HasRuns text runs) : ∀ run ∈ runs, IsRun run := by
  induction hruns with
  | nil => simp
  | space hrest ih => exact ih
  | run hrun hends hrest ih => exact List.forall_mem_cons.mpr ⟨hrun, ih⟩

/-- Runs with one space between them are the runs of that text. -/
theorem hasRuns_intercalate {runs : List (List Char)}
    (hruns : ∀ run ∈ runs, IsRun run) : HasRuns ([' '].intercalate runs) runs := by
  induction runs with
  | nil => exact .nil
  | cons run runs ih =>
    obtain ⟨hrun, hrest⟩ := List.forall_mem_cons.mp hruns
    cases runs with
    | nil =>
      have hwhole : HasRuns (run ++ []) [run] := .run hrun (by simp) .nil
      simpa using hwhole
    | cons next runs =>
      rw [List.intercalate_cons_cons, List.append_assoc]
      exact .run hrun (by simp) (.space (ih hrest))

/-! ## Words of signatures -/

theorem TypeToken.IsWritable.isRun_text {t : TypeToken} (ht : t.IsWritable) :
    IsRun t.text.toList := by
  have hfree := ht.not_mem_base not_isTypeChar_space
  have hne := ht.isTypeName.nonempty
  have hunmarked : IsRun t.unmarked := by
    refine ⟨by simp [unmarked, hne], ?_⟩
    cases harray : t.array <;> simp [unmarked, hfree, harray]
  rw [toList_text]
  split
  · exact hunmarked.cons (by decide)
  · exact hunmarked

/-- The characters are the text of a type token. -/
def IsTypeText (run : List Char) : Prop :=
  ∃ t, TypeToken.parse (String.ofList run) = .ok t

theorem TypeToken.IsWritable.isTypeText {t : TypeToken} (ht : t.IsWritable) :
    IsTypeText t.text.toList := by
  have hparse := ht.parse_text
  rw [← t.text.ofList_toList] at hparse
  exact ⟨t, hparse⟩

namespace Signature

variable {s : Signature} {text : String}

def words (s : Signature) : List String :=
  s.left.text :: s.operator :: (s.right.map TypeToken.text).toList

/-- Both sides are what their texts read as, and the operator is one word. -/
structure IsWritable (s : Signature) : Prop where
  left : s.left.IsWritable
  operator : IsRun s.operator.toList
  right : ∀ t ∈ s.right, t.IsWritable

theorem ofWords?_eq_some_iff {words : List String} :
    ofWords? words = some s ↔
      s.words = words ∧ s.left.IsWritable ∧ ∀ t ∈ s.right, t.IsWritable := by
  constructor
  · intro hread
    unfold ofWords? at hread
    split at hread
    next left operator =>
      obtain ⟨t, ht, hs⟩ := Option.bind_eq_some_iff.mp hread
      obtain ⟨hwritable, rfl⟩ := TypeToken.read?_eq_some_iff.mp ht
      cases hs
      exact ⟨rfl, hwritable, by simp⟩
    next left operator right =>
      obtain ⟨t, ht, hread⟩ := Option.bind_eq_some_iff.mp hread
      obtain ⟨u, hu, hs⟩ := Option.bind_eq_some_iff.mp hread
      obtain ⟨hwritable, rfl⟩ := TypeToken.read?_eq_some_iff.mp ht
      obtain ⟨hwritableRight, rfl⟩ := TypeToken.read?_eq_some_iff.mp hu
      cases hs
      exact ⟨rfl, hwritable, by simpa using hwritableRight⟩
    next => cases hread
  · rintro ⟨rfl, hleft, hright⟩
    rcases s with ⟨left, operator, right⟩
    have hreadLeft := hleft.read?_text
    cases right with
    | none => simp [words, ofWords?, hreadLeft]
    | some right =>
      have hreadRight := (hright right rfl).read?_text
      simp [words, ofWords?, hreadLeft, hreadRight]

theorem text_eq_intercalate (s : Signature) :
    s.text = " ".intercalate s.words := by
  cases hright : s.right <;>
    simp [text, words, hright, String.intercalate_cons_cons, String.append_assoc]

theorem toList_text (s : Signature) :
    s.text.toList = [' '].intercalate (s.words.map String.toList) := by
  rw [text_eq_intercalate, String.toList_intercalate]
  rfl

/-- A signature is read just when its words are the runs of the text. -/
theorem parse_eq_ok_iff :
    parse text = .ok s ↔ HasRuns text.toList (s.words.map String.toList) ∧
      s.left.IsWritable ∧ ∀ t ∈ s.right, t.IsWritable := by
  have hwords : s.words = (spaceRuns text.toList).map String.ofList ↔
      spaceRuns text.toList = s.words.map String.toList := by
    constructor
    · intro hwords
      simp [hwords, Function.comp_def]
    · intro hruns
      simp [hruns, Function.comp_def]
  have hread : parse text = .ok s ↔ read? text = some s := by
    rw [parse]
    cases read? text <;> simp
  rw [hread, read?, ofWords?_eq_some_iff, hwords, spaceRuns_eq_iff]

theorem parse_eq_ok_or_error (text : String) :
    (∃ s, parse text = .ok s) ∨ parse text = .error (.invalidSignature text) := by
  rw [parse]
  cases read? text with
  | none => exact .inr rfl
  | some s => exact .inl ⟨s, rfl⟩

theorem IsWritable.isRun_of_mem_words (hs : s.IsWritable) :
    ∀ run ∈ s.words.map String.toList, IsRun run := by
  simp only [words, List.map_cons, List.forall_mem_cons]
  refine ⟨hs.left.isRun_text, hs.operator, ?_⟩
  intro run hrun
  cases hright : s.right with
  | none => simp [hright] at hrun
  | some t =>
    obtain rfl : run = t.text.toList := by simpa [hright] using hrun
    exact (hs.right t hright).isRun_text

theorem IsWritable.parse_text (hs : s.IsWritable) : parse s.text = .ok s := by
  refine parse_eq_ok_iff.mpr ⟨?_, hs.left, hs.right⟩
  rw [toList_text]
  exact hasRuns_intercalate hs.isRun_of_mem_words

theorem isWritable_of_parse (hparse : parse text = .ok s) : s.IsWritable := by
  obtain ⟨hruns, hleft, hright⟩ := parse_eq_ok_iff.mp hparse
  exact ⟨hleft, hruns.isRun _ (by simp [words]), hright⟩

theorem text_of_parse {runs : List (List Char)}
    (hruns : HasRuns text.toList runs) (hparse : parse text = .ok s) :
    s.text.toList = [' '].intercalate runs := by
  have hwords := (parse_eq_ok_iff.mp hparse).1
  rw [toList_text, ← hwords.spaceRuns_eq, ← hruns.spaceRuns_eq]

theorem exists_parse_iff {runs : List (List Char)}
    (hruns : HasRuns text.toList runs) :
    (∃ s, parse text = .ok s) ↔ (runs.length = 2 ∨ runs.length = 3) ∧
      (∀ run ∈ runs[0]?, IsTypeText run) ∧ (∀ run ∈ runs[2]?, IsTypeText run) := by
  constructor
  · rintro ⟨s, hparse⟩
    obtain ⟨hwords, hleft, hright⟩ := parse_eq_ok_iff.mp hparse
    have hsame := hruns.spaceRuns_eq.symm.trans hwords.spaceRuns_eq
    rw [hsame]
    have hfirst := hleft.isTypeText
    cases hoperand : s.right with
    | none => simpa [words, hoperand] using hfirst
    | some t =>
      have hthird := (hright t hoperand).isTypeText
      simpa [words, hoperand] using ⟨hfirst, hthird⟩
  · rintro ⟨hlength | hlength, hfirst, hthird⟩
    · obtain ⟨left, operator, rfl⟩ := List.length_eq_two.mp hlength
      obtain ⟨t, ht⟩ := hfirst left rfl
      obtain ⟨hleft, htext⟩ := TypeToken.parse_eq_ok_iff.mp ht
      refine ⟨⟨t, String.ofList operator, none⟩, ?_⟩
      refine parse_eq_ok_iff.mpr ⟨?_, hleft, by simp⟩
      simpa [words, htext] using hruns
    · obtain ⟨left, operator, right, rfl⟩ := List.length_eq_three.mp hlength
      obtain ⟨t, ht⟩ := hfirst left rfl
      obtain ⟨u, hu⟩ := hthird right rfl
      obtain ⟨hleft, htext⟩ := TypeToken.parse_eq_ok_iff.mp ht
      obtain ⟨hright, htextRight⟩ := TypeToken.parse_eq_ok_iff.mp hu
      refine ⟨⟨t, String.ofList operator, some u⟩, ?_⟩
      refine parse_eq_ok_iff.mpr ⟨?_, hleft, by simpa using hright⟩
      simpa [words, htext, htextRight] using hruns

/-- A text is read as a signature just when its runs are two or three and the
outer ones are texts of type tokens; the signature has the runs with one space
between them as its text, from which it is read again.  Every signature of tokens
that can be read and an operator of one word is read from its own text.  The
error for any other text holds that text. -/
theorem parse_isExact :
    (∀ text : String, ∃ runs, HasRuns text.toList runs) ∧
    (∀ text runs, HasRuns text.toList runs →
      ((∃ s, parse text = .ok s) ↔ (runs.length = 2 ∨ runs.length = 3) ∧
        (∀ run ∈ runs[0]?, IsTypeText run) ∧
        (∀ run ∈ runs[2]?, IsTypeText run)) ∧
      ∀ s, parse text = .ok s →
        s.text.toList = [' '].intercalate runs ∧ parse s.text = .ok s) ∧
    (∀ s : Signature, (∃ left, TypeToken.parse left = .ok s.left) →
      (∀ t ∈ s.right, ∃ right, TypeToken.parse right = .ok t) →
      s.operator ≠ "" → ' ' ∉ s.operator.toList → parse s.text = .ok s) ∧
    (∀ text, (∃ s, parse text = .ok s) ∨
      parse text = .error (.invalidSignature text)) := by
  refine ⟨fun text => exists_hasRuns text.toList, ?_, ?_, parse_eq_ok_or_error⟩
  · intro text runs hruns
    refine ⟨exists_parse_iff hruns, ?_⟩
    intro s hparse
    exact ⟨text_of_parse hruns hparse, (isWritable_of_parse hparse).parse_text⟩
  · rintro s ⟨left, hleft⟩ hright hnonempty hnoSpace
    have hoperator : IsRun s.operator.toList := by
      refine ⟨?_, hnoSpace⟩
      rwa [ne_eq, String.toList_eq_nil_iff]
    have hs : s.IsWritable := by
      refine ⟨(TypeToken.parse_eq_ok_iff.mp hleft).1, hoperator, ?_⟩
      intro t ht
      obtain ⟨right, hparse⟩ := hright t ht
      exact (TypeToken.parse_eq_ok_iff.mp hparse).1
    exact hs.parse_text

/-- The operator is not looked at: it may look like a type, or like one that is
none.  A tab is no space. -/
theorem parse_isExact_spaced :
    HasRuns "  $text[]   a(  any ".toList
        ["$text[]".toList, "a(".toList, "any".toList] ∧
      (∃ s, parse "  $text[]   a(  any " = .ok s ∧ s.text = "$text[] a( any" ∧
        parse "$text[] a( any" = .ok s) ∧
      parse "a( EQ b" = .error (.invalidSignature "a( EQ b") ∧
      parse "$any\tEXISTS" = .error (.invalidSignature "$any\tEXISTS") := by
  have hruns : HasRuns "  $text[]   a(  any ".toList
      ["$text[]".toList, "a(".toList, "any".toList] :=
    spaceRuns_eq_iff.mp (by decide +kernel)
  have hfirst : IsTypeText "$text[]".toList :=
    ⟨⟨.named "text", true, true⟩, by decide +kernel⟩
  have hthird : IsTypeText "any".toList := ⟨.any, by decide +kernel⟩
  obtain ⟨hiff, hagain⟩ := parse_isExact.2.1 _ _ hruns
  obtain ⟨s, hparse⟩ := hiff.mpr
    ⟨.inr rfl, by simpa using hfirst, by simpa using hthird⟩
  obtain ⟨hchars, hreparse⟩ := hagain s hparse
  have htext : s.text = "$text[] a( any" := String.toList_injective hchars
  rw [htext] at hreparse
  refine ⟨hruns, ⟨s, hparse, htext, hreparse⟩, ?_, ?_⟩
  · decide +kernel
  · decide +kernel

end Signature

end FilterLanguage
