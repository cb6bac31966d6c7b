import FilterLanguage.Error

/-!
# Texts of type tokens

A token can be read back from its text unless the name of its type cannot be
told apart from the rest: it has to be made of the characters that names have,
and `any` is taken by the wildcards.  Texts of other tokens are not read, or are
read as something else.  Reading therefore finds a token just when that token
can be written and the text is its text.
-/

namespace FilterLanguage

/-- The name is not empty and made of the characters of names. -/
structure IsTypeName (name : String) : Prop where
  nonempty : name.toList ≠ []
  chars : ∀ c ∈ name.toList, isTypeChar c = true

instance (name : String) : Decidable (IsTypeName name) :=
  decidable_of_iff (name.toList ≠ [] ∧ name.toList.all isTypeChar = true)
    ⟨fun h => ⟨h.1, List.all_eq_true.mp h.2⟩,
      fun h => ⟨h.nonempty, List.all_eq_true.mpr h.chars⟩⟩

def BaseType.IsWritable : BaseType → Prop
  | .any => True
  | .named name => IsTypeName name ∧ name ≠ "any"

/-- The token is what its text reads as. -/
def TypeToken.IsWritable (t : TypeToken) : Prop := t.base.IsWritable

theorem isTypeName_any : IsTypeName "any" := by decide +kernel

theorem not_isTypeChar_dollar : ¬ isTypeChar '$' = true := by decide +kernel

theorem not_isTypeChar_bracket : ¬ isTypeChar ']' = true := by decide +kernel

theorem not_isTypeChar_space : ¬ isTypeChar ' ' = true := by decide +kernel

theorem BaseType.IsWritable.isTypeName {base : BaseType}
    (hbase : base.IsWritable) : IsTypeName base.text := by
  cases base with
  | any => exact isTypeName_any
  | named name => exact hbase.1

namespace TypeToken

/-! ## Bases -/

theorem readBase?_eq_some_iff {cs : List Char} {base : BaseType} :
    readBase? cs = some base ↔ base.IsWritable ∧ base.text.toList = cs := by
  by_cases hname : cs = [] ∨ ¬ cs.all isTypeChar
  · rw [readBase?, if_pos hname]
    simp only [reduceCtorEq, false_iff, not_and]
    intro hbase htext
    have hreads := hbase.isTypeName
    rw [← htext] at hname
    rcases hname with hempty | hchars
    · exact hreads.nonempty hempty
    · exact hchars (List.all_eq_true.mpr hreads.chars)
  · rw [readBase?, if_neg hname]
    rw [not_or, Decidable.not_not] at hname
    by_cases hany : cs = "any".toList
    · rw [if_pos hany]
      cases base with
      | any => simp [BaseType.IsWritable, BaseType.text, hany]
      | named name =>
        simp only [Option.some.injEq, reduceCtorEq, false_iff, not_and]
        intro hbase htext
        apply hbase.2
        apply String.toList_injective
        exact htext.trans hany
    · rw [if_neg hany]
      cases base with
      | any =>
        simp only [Option.some.injEq, reduceCtorEq, false_iff, not_and]
        intro _ htext
        exact hany htext.symm
      | named name =>
        simp only [Option.some.injEq, BaseType.named.injEq]
        constructor
        · intro hread
          subst hread
          have htext : (String.ofList cs).toList = cs := String.toList_ofList
          refine ⟨⟨⟨?_, ?_⟩, ?_⟩, htext⟩
          · rw [htext]
            exact hname.1
          · rw [htext]
            exact List.all_eq_true.mp hname.2
          · intro hreserved
            apply hany
            rw [← htext, hreserved]
        · intro hwritten
          rw [← hwritten.2]
          exact String.ofList_toList

/-! ## Marks -/

theorem stripBrackets?_eq_some_iff {cs base : List Char} :
    stripBrackets? cs = some base ↔ cs = base ++ ['[', ']'] := by
  have hreverse : cs = base ++ ['[', ']'] ↔
      cs.reverse = ']' :: '[' :: base.reverse := by
    rw [← List.reverse_inj]
    simp
  rw [hreverse, stripBrackets?]
  split
  next rest hrest =>
    rw [hrest, Option.some.injEq, List.cons.injEq, List.cons.injEq]
    constructor
    · intro hbase
      rw [← hbase, List.reverse_reverse]
      exact ⟨rfl, rfl, rfl⟩
    · intro hbase
      rw [hbase.2.2, List.reverse_reverse]
  next hother =>
    simp only [reduceCtorEq, false_iff]
    exact hother base.reverse

/-- Reads a token whose reference mark is known from the other characters. -/
def readUnmarked? (reference : Bool) (cs : List Char) : Option TypeToken :=
  match stripBrackets? cs with
  | some base => (readBase? base).map fun base => ⟨base, reference, true⟩
  | none => (readBase? cs).map fun base => ⟨base, reference, false⟩

theorem read?_of_marked {text : String} {rest : List Char}
    (htext : text.toList = '$' :: rest) :
    read? text = readUnmarked? true rest := by
  simp only [read?, readUnmarked?, htext]
  cases stripBrackets? rest <;> rfl

theorem read?_of_unmarked {text : String}
    (htext : ∀ rest, text.toList ≠ '$' :: rest) :
    read? text = readUnmarked? false text.toList := by
  simp only [read?, readUnmarked?]
  cases stripBrackets? text.toList <;> rfl

/-- The characters of the text behind the reference mark. -/
def unmarked (t : TypeToken) : List Char :=
  t.base.text.toList ++ if t.array then ['[', ']'] else []

theorem toList_text (t : TypeToken) :
    t.text.toList =
      if t.reference then '$' :: t.unmarked else t.unmarked := by
  rcases t with ⟨base, reference, array⟩
  cases reference <;> cases array <;> simp [text, unmarked]

theorem IsWritable.not_mem_base {t : TypeToken} (ht : t.IsWritable) {c : Char}
    (hc : ¬ isTypeChar c = true) : c ∉ t.base.text.toList := by
  intro hmem
  exact hc (ht.isTypeName.chars c hmem)

theorem IsWritable.unmarked_ne_dollar {t : TypeToken} (ht : t.IsWritable)
    (rest : List Char) : t.unmarked ≠ '$' :: rest := by
  intro hstart
  have hfree := ht.not_mem_base not_isTypeChar_dollar
  cases hbase : t.base.text.toList with
  | nil => exact ht.isTypeName.nonempty hbase
  | cons c cs =>
    rw [hbase] at hfree
    rw [unmarked, hbase, List.cons_append, List.cons.injEq] at hstart
    apply hfree
    rw [hstart.1]
    exact List.mem_cons_self

theorem map_readBase?_eq_some_iff {reference array : Bool} {cs : List Char}
    {t : TypeToken} :
    (readBase? cs).map (fun base => ⟨base, reference, array⟩) = some t ↔
      t.IsWritable ∧ t.reference = reference ∧ t.array = array ∧
        t.base.text.toList = cs := by
  rcases t with ⟨base, marked, bracketed⟩
  simp only [Option.map_eq_some_iff, readBase?_eq_some_iff, mk.injEq, IsWritable]
  constructor
  · intro hread
    obtain ⟨_, hbase, rfl, rfl, rfl⟩ := hread
    exact ⟨hbase.1, rfl, rfl, hbase.2⟩
  · intro hwritten
    obtain ⟨hbase, rfl, rfl, hcs⟩ := hwritten
    exact ⟨base, ⟨hbase, hcs⟩, rfl, rfl, rfl⟩

theorem readUnmarked?_eq_some_iff {reference : Bool} {cs : List Char}
    {t : TypeToken} :
    readUnmarked? reference cs = some t ↔
      t.IsWritable ∧ t.reference = reference ∧ t.unmarked = cs := by
  cases hstrip : stripBrackets? cs with
  | some inner =>
    obtain rfl := stripBrackets?_eq_some_iff.mp hstrip
    simp only [readUnmarked?, hstrip, map_readBase?_eq_some_iff, unmarked]
    cases harray : t.array with
    | true => simp
    | false =>
      simp only [Bool.false_eq_true, false_and, and_false, if_false,
        List.append_nil, false_iff, not_and]
      intro ht _ hbase
      apply ht.not_mem_base not_isTypeChar_bracket
      rw [hbase]
      simp
  | none =>
    simp only [readUnmarked?, hstrip, map_readBase?_eq_some_iff, unmarked]
    cases harray : t.array with
    | false => simp
    | true =>
      simp only [reduceCtorEq, false_and, and_false, if_true, false_iff, not_and]
      intro _ _ hbase
      rw [stripBrackets?_eq_some_iff.mpr hbase.symm] at hstrip
      cases hstrip

/-! ## Tokens -/

theorem read?_eq_some_iff {text : String} {t : TypeToken} :
    read? text = some t ↔ t.IsWritable ∧ t.text = text := by
  rw [← String.toList_inj, toList_text]
  by_cases hmarked : ∃ rest, text.toList = '$' :: rest
  · obtain ⟨rest, hrest⟩ := hmarked
    rw [read?_of_marked hrest, readUnmarked?_eq_some_iff, hrest]
    constructor
    · intro hread
      simp [hread]
    · intro hwritten
      obtain ⟨ht, htext⟩ := hwritten
      by_cases hreference : t.reference = true
      · simpa [ht, hreference] using htext
      · rw [if_neg hreference] at htext
        exact (ht.unmarked_ne_dollar rest htext).elim
  · have hunmarked : ∀ rest, text.toList ≠ '$' :: rest :=
      not_exists.mp hmarked
    rw [read?_of_unmarked hunmarked, readUnmarked?_eq_some_iff]
    by_cases hreference : t.reference = true
    · have hother : '$' :: t.unmarked ≠ text.toList :=
        (hunmarked t.unmarked).symm
      simp [hreference, hother]
    · simp [hreference]

theorem isWritable_of_base_eq_any {t : TypeToken} (hbase : t.base = .any) :
    t.IsWritable := by
  rw [IsWritable, hbase]
  trivial

theorem IsWritable.read?_text {t : TypeToken} (ht : t.IsWritable) :
    read? t.text = some t :=
  read?_eq_some_iff.mpr ⟨ht, rfl⟩

theorem parse_eq_ok_iff {text : String} {t : TypeToken} :
    parse text = .ok t ↔ t.IsWritable ∧ t.text = text := by
  rw [← read?_eq_some_iff, parse]
  cases read? text <;> simp

theorem IsWritable.parse_text {t : TypeToken} (ht : t.IsWritable) :
    parse t.text = .ok t :=
  parse_eq_ok_iff.mpr ⟨ht, rfl⟩

theorem parse_eq_ok_or_error (text : String) :
    (∃ t, parse text = .ok t) ∨
      parse text = .error (.invalidTypeToken text) := by
  rw [parse]
  cases read? text with
  | none => exact .inr rfl
  | some t => exact .inl ⟨t, rfl⟩

theorem parse_eq_error_iff {text : String} :
    parse text = .error (.invalidTypeToken text) ↔
      ∀ t : TypeToken, t.IsWritable → t.text ≠ text := by
  constructor
  · intro hrefused t ht htext
    rw [parse_eq_ok_iff.mpr ⟨ht, htext⟩] at hrefused
    cases hrefused
  · intro hother
    refine (parse_eq_ok_or_error text).resolve_left ?_
    rintro ⟨t, hparse⟩
    obtain ⟨ht, htext⟩ := parse_eq_ok_iff.mp hparse
    exact hother t ht htext

theorem isTypeChar_iff {c : Char} :
    isTypeChar c = true ↔ isAlphanumeric c = true ∨ c ∈ ['_', '-', '.'] := by
  simp [isTypeChar, or_assoc]

theorem isWritable_iff {t : TypeToken} :
    t.IsWritable ↔ t.base = .any ∨ ∃ name, t.base = .named name ∧
      name ≠ "" ∧ name ≠ "any" ∧
        ∀ c ∈ name.toList, isAlphanumeric c = true ∨ c ∈ ['_', '-', '.'] := by
  rcases t with ⟨base, reference, array⟩
  cases base with
  | any => simp [IsWritable, BaseType.IsWritable]
  | named name =>
    simp only [IsWritable, BaseType.IsWritable, ← isTypeChar_iff, reduceCtorEq,
      BaseType.named.injEq, exists_eq_left', false_or]
    constructor
    · rintro ⟨⟨hne, hchars⟩, hreserved⟩
      exact ⟨mt String.toList_eq_nil_iff.mpr hne, hreserved, hchars⟩
    · rintro ⟨hne, hreserved, hchars⟩
      exact ⟨⟨mt String.toList_eq_nil_iff.mp hne, hchars⟩, hreserved⟩

/-- Tokens and their texts correspond to each other one by one.  A token can be
written when it is a wildcard, or its type has a name of alphanumeric
characters, `_`, `-` and `.` other than `any`.  Reading gives such tokens only,
each from its own text and from no other, and any other text is in the error. -/
theorem parse_inverts_text :
    (∀ t : TypeToken, t.IsWritable ↔ t.base = .any ∨
      ∃ name, t.base = .named name ∧ name ≠ "" ∧ name ≠ "any" ∧
        ∀ c ∈ name.toList, isAlphanumeric c = true ∨ c ∈ ['_', '-', '.']) ∧
    (∀ text t, parse text = .ok t → t.IsWritable ∧ t.text = text) ∧
    (∀ t : TypeToken, t.IsWritable → parse t.text = .ok t) ∧
    (∀ text, (∀ t : TypeToken, t.IsWritable → t.text ≠ text) →
      parse text = .error (.invalidTypeToken text)) := by
  refine ⟨fun _ => isWritable_iff, ?_, ?_, ?_⟩
  · intro text t hparse
    exact parse_eq_ok_iff.mp hparse
  · intro t ht
    exact ht.parse_text
  · intro text hother
    exact parse_eq_error_iff.mpr hother

/-- Both marks around a name, both marks around the reserved one, and a mark
that is doubled. -/
theorem parse_inverts_text_marks :
    let t : TypeToken := ⟨.named "é-1.x", true, true⟩
    t.IsWritable ∧ t.text = "$é-1.x[]" ∧ parse "$é-1.x[]" = .ok t ∧
      parse "$any[]" = .ok ⟨.any, true, true⟩ ∧
      ¬ (TypeToken.mk (.named "any") true true).IsWritable ∧
      parse "$$any" = .error (.invalidTypeToken "$$any") := by
  intro t
  obtain ⟨hwritable, -, hown, hother⟩ := parse_inverts_text
  have ht : t.IsWritable := by
    refine (hwritable t).mpr (.inr ⟨"é-1.x", rfl, by decide, by decide, ?_⟩)
    intro c hc
    exact isTypeChar_iff.mp (List.all_eq_true.mp (by decide +kernel) c hc)
  have htext : t.text = "$é-1.x[]" := by decide +kernel
  have hparse := hown t ht
  rw [htext] at hparse
  have hwildcard : parse "$any[]" = .ok ⟨.any, true, true⟩ :=
    hown ⟨.any, true, true⟩ ((hwritable _).mpr (.inl rfl))
  have hreserved : ¬ (TypeToken.mk (.named "any") true true).IsWritable :=
    fun hnamed => hnamed.2 rfl
  have hdoubled : ∀ s : TypeToken, s.IsWritable → s.text ≠ "$$any" := by
    intro s hs hmarks
    have hchars := s.toList_text
    rw [hmarks] at hchars
    split at hchars
    · exact hs.unmarked_ne_dollar _ (List.cons.inj hchars).2.symm
    · exact hs.unmarked_ne_dollar _ hchars.symm
  exact ⟨ht, htext, hparse, hwildcard, hreserved, hother _ hdoubled⟩

end TypeToken

end FilterLanguage
