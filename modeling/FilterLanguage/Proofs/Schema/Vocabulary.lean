import FilterLanguage.Proofs.Schema.Contents
import FilterLanguage.Proofs.Schema.TypeText

/-!
# Looking tokens up

A token of the vocabulary is looked up by a text, which is read first.  Types
may be declared under any name, also under one that no text of a token can have:
such a type has its tokens in the vocabulary, but they are not found.  The name
`any` can be read, as the wildcard, which is another token than that of a type
declared under it.
-/

namespace FilterLanguage

theorem mem_vocabulary_iff {types : List String} {t : TypeToken} :
    t ∈ vocabulary types ↔
      t.base = .any ∨ ∃ type ∈ types, t.base = .named type ∧
        ¬ (t.reference = true ∧ t.array = true) := by
  rcases t with ⟨base, reference, array⟩
  rw [vocabulary, List.mem_append, List.mem_flatMap]
  cases base with
  | any => cases reference <;> cases array <;> simp
  | named name => cases reference <;> cases array <;> simp [eq_comm]

/-- The texts of the tokens of a type. -/
def writtenForms (name : String) : List String :=
  [name, "$" ++ name, name ++ "[]"]

theorem text_mem_writtenForms {t : TypeToken}
    (hmarks : ¬ (t.reference = true ∧ t.array = true)) :
    t.text ∈ writtenForms t.base.text := by
  rcases t with ⟨base, reference, array⟩
  cases reference <;> cases array <;>
    simp_all [TypeToken.text, writtenForms]

theorem exists_text_of_mem_writtenForms (base : BaseType) {text : String}
    (htext : text ∈ writtenForms base.text) :
    ∃ t : TypeToken, t.base = base ∧ t.text = text ∧
      ¬ (t.reference = true ∧ t.array = true) := by
  simp only [writtenForms, List.mem_cons, List.not_mem_nil, or_false] at htext
  rcases htext with htext | htext | htext
  · exact ⟨⟨base, false, false⟩, rfl, by simp [TypeToken.text, htext], by simp⟩
  · exact ⟨⟨base, true, false⟩, rfl, by simp [TypeToken.text, htext], by simp⟩
  · exact ⟨⟨base, false, true⟩, rfl, by simp [TypeToken.text, htext], by simp⟩

def wildcardTexts : List String := ["any", "any[]", "$any", "$any[]"]

theorem mem_wildcardTexts_iff {text : String} :
    text ∈ wildcardTexts ↔ ∃ t : TypeToken, t.base = .any ∧ t.text = text := by
  constructor
  · intro htext
    have htexts : wildcardTexts = TypeToken.wildcards.map TypeToken.text := by
      decide
    rw [htexts] at htext
    obtain ⟨t, ht, rfl⟩ := List.mem_map.mp htext
    exact ⟨t, by revert t; decide, rfl⟩
  · intro hwritten
    obtain ⟨⟨base, reference, array⟩, hbase, rfl⟩ := hwritten
    obtain rfl : base = .any := hbase
    cases reference <;> cases array <;> decide

namespace Registry

variable {σ : Type} {r : Registry σ} {given : List String} {a : σ}
  {present : List Reference} {listed : List (Overload σ)} {t : TypeToken}
  {text : String}

theorem token_eq_ok_iff :
    r.token text = .ok t ↔ t.IsWritable ∧ t.text = text ∧ t ∈ r.tokens := by
  rw [← and_assoc, ← TypeToken.read?_eq_some_iff, token]
  cases hread : TypeToken.read? text with
  | none => simp
  | some found =>
    by_cases hfound : found ∈ r.tokens
    · simp only [if_pos hfound, Except.ok.injEq, Option.some.injEq]
      constructor
      · intro hsame
        rw [← hsame]
        exact ⟨rfl, hfound⟩
      · exact And.left
    · simp only [if_neg hfound, reduceCtorEq, Option.some.injEq, false_iff,
        not_and]
      intro hsame
      rwa [← hsame]

theorem token_eq_ok_or_error (r : Registry σ) (text : String) :
    (∃ t, r.token text = .ok t) ∨
      r.token text = .error (.notFound .token text) := by
  rw [token]
  cases TypeToken.read? text with
  | none => exact .inr rfl
  | some found =>
    by_cases hfound : found ∈ r.tokens
    · simp [hfound]
    · simp [hfound]

theorem Holds.mem_tokens_iff (hholds : r.Holds given a present listed) :
    t ∈ r.tokens ↔ t.base = .any ∨ ∃ reference ∈ present,
      t.base = .named reference.type ∧
        ¬ (t.reference = true ∧ t.array = true) := by
  rw [hholds.tokens, List.mem_eraseDups, mem_vocabulary_iff]
  simp only [List.mem_map, exists_exists_and_eq_and]

/-- A declared type of the name `any` is read as the base of the wildcards. -/
theorem Holds.exists_token_iff (hholds : r.Holds given a present listed) :
    (∃ t, r.token text = .ok t) ↔
      text ∈ wildcardTexts ∨ ∃ reference ∈ present,
        IsTypeName reference.type ∧ text ∈ writtenForms reference.type := by
  simp only [token_eq_ok_iff, hholds.mem_tokens_iff]
  constructor
  · intro hfound
    obtain ⟨t, ht, rfl, hany | hnamed⟩ := hfound
    · exact .inl (mem_wildcardTexts_iff.mpr ⟨t, hany, rfl⟩)
    · obtain ⟨reference, hpresent, hbase, hmarks⟩ := hnamed
      have hname := ht.isTypeName
      have hforms := text_mem_writtenForms hmarks
      rw [hbase] at hname hforms
      exact .inr ⟨reference, hpresent, hname, hforms⟩
  · intro hwritten
    rcases hwritten with htext | hdeclared
    · obtain ⟨t, hbase, rfl⟩ := mem_wildcardTexts_iff.mp htext
      exact ⟨t, TypeToken.isWritable_of_base_eq_any hbase, rfl, .inl hbase⟩
    · obtain ⟨reference, hpresent, hname, hforms⟩ := hdeclared
      by_cases hany : reference.type = "any"
      · rw [hany] at hforms
        obtain ⟨t, hbase, rfl, -⟩ := exists_text_of_mem_writtenForms .any hforms
        exact ⟨t, TypeToken.isWritable_of_base_eq_any hbase, rfl, .inl hbase⟩
      · obtain ⟨t, hbase, rfl, hmarks⟩ :=
          exists_text_of_mem_writtenForms (.named reference.type) hforms
        refine ⟨t, ?_, rfl, .inr ⟨reference, hpresent, hbase, hmarks⟩⟩
        rw [TypeToken.IsWritable, hbase]
        exact ⟨hname, hany⟩

/-- After any calls a text finds a token just when it is that of a wildcard, or
one of the forms of the type of an added reference and that type has a name that
can be read.  What is found has this text.  A token of the vocabulary is found by
its own text just when it can be written. -/
theorem token_declareAll (types : List String) (a : σ)
    (declarations : List (Declaration σ)) :
    let start := ofTypes types a
    let r := start.declareAll declarations
    let references := start.added declarations
    (∀ text, (∃ t, r.token text = .ok t) ↔
      text ∈ wildcardTexts ∨ ∃ reference ∈ references,
        IsTypeName reference.type ∧ text ∈ writtenForms reference.type) ∧
    (∀ text t, r.token text = .ok t → t.text = text) ∧
    (∀ t ∈ r.tokens, r.token t.text = .ok t ↔ t.IsWritable) ∧
    (∀ text, (∃ t, r.token text = .ok t) ∨
      r.token text = .error (.notFound .token text)) := by
  intro start r references
  have hholds : r.Holds types a references (registered declarations) :=
    (holds_ofTypes types a).declareAll declarations
  refine ⟨fun _ => hholds.exists_token_iff, ?_, ?_, r.token_eq_ok_or_error⟩
  · intro text t hfound
    exact (token_eq_ok_iff.mp hfound).2.1
  · intro t ht
    rw [token_eq_ok_iff]
    constructor
    · intro hfound
      exact hfound.1
    · intro hwritable
      exact ⟨hwritable, rfl, ht⟩

/-- The second type is not that of a reference. -/
theorem token_declareAll_array :
    let r := (ofTypes ["keyword", "text"] ()).declareAll
      [.add ⟨"tags", "keyword", true⟩]
    r.token "keyword[]" = .ok ⟨.named "keyword", false, true⟩ ∧
      (TypeToken.named "keyword").asArray ∈ r.tokens ∧
      r.token "$any" = .ok .universal ∧
      r.token "$keyword[]" = .error (.notFound .token "$keyword[]") ∧
      r.token "text" = .error (.notFound .token "text") := by
  intro r
  obtain ⟨hexists, htext, hown, hmissing⟩ :=
    token_declareAll ["keyword", "text"] ()
      [.add ⟨"tags", "keyword", true⟩]
  have hmem : (TypeToken.named "keyword").asArray ∈ r.tokens := by decide
  have hwritable : (TypeToken.named "keyword").asArray.IsWritable :=
    ⟨by decide +kernel, by decide⟩
  refine ⟨(hown _ hmem).mpr hwritable, hmem,
    (hown .universal (by decide)).mpr trivial, ?_, ?_⟩
  · refine (hmissing "$keyword[]").resolve_left ?_
    rw [hexists]
    decide +kernel
  · refine (hmissing "text").resolve_left ?_
    rw [hexists]
    decide +kernel

/-- A type with a space in its name has tokens that no text finds, and the name
`any` finds the wildcard. -/
theorem token_not_found_by_text :
    let spaced : Reference := ⟨"x", "a b", false⟩
    let reserved : Reference := ⟨"y", "any", false⟩
    let start := ofTypes ["a b", "any"] ()
    let declarations : List (Declaration Unit) := [.add spaced, .add reserved]
    let r := start.declareAll declarations
    ¬ ((∃ t, r.token "a b" = .ok t) ↔
        "a b" ∈ wildcardTexts ∨ ∃ reference ∈ start.added declarations,
          "a b" ∈ writtenForms reference.type) ∧
      ¬ (∀ t ∈ r.tokens, r.token t.text = .ok t) ∧
      TypeToken.named "any" ∈ r.tokens ∧ r.token "any" = .ok .any := by
  intro spaced reserved start declarations r
  have hrefused : r.token "a b" = .error (.notFound .token "a b") := by
    decide +kernel
  have hadded : start.added declarations = [spaced, reserved] := rfl
  have hspaced : TypeToken.named "a b" ∈ r.tokens := by decide
  have hreserved : TypeToken.named "any" ∈ r.tokens := by decide +kernel
  refine ⟨?_, ?_, hreserved, by decide +kernel⟩
  · intro hiff
    have hform : "a b" ∈ writtenForms spaced.type := List.mem_cons_self
    have hmem : spaced ∈ start.added declarations := by
      rw [hadded]
      exact List.mem_cons_self
    obtain ⟨t, hfound⟩ := hiff.mpr (.inr ⟨spaced, hmem, hform⟩)
    rw [hrefused] at hfound
    cases hfound
  · intro hown
    have htext : (TypeToken.named "a b").text = "a b" := by decide +kernel
    have hfound := hown _ hspaced
    rw [htext, hrefused] at hfound
    cases hfound

end Registry

end FilterLanguage
