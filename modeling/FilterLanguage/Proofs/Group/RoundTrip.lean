import FilterLanguage.Proofs.Group.Parsing
import FilterLanguage.Proofs.Group.Shape
import FilterLanguage.Proofs.Token.Spelling

/-!
# Groups and their texts

A group is well formed when it is a filter and all its statements are writable.
These are the groups that parsing makes, and the groups that are parsed from
their own text.  Numbers that cannot be written as literals do not spoil the
text: they read back as names, so a text is parsed all the same, only to another
group.
-/

namespace FilterLanguage

/-- Items and connectives alternate at every depth, and every name, operator and
number can be written. -/
structure Group.IsWellFormed (g : Group Statement) : Prop where
  filter : g.IsFilter
  writable : ∀ s ∈ g.flat, s.IsWritable

/-! ## Numbers that read back as names -/

theorem Number.isBareWord_text {x : Number} (hx : ¬ x.IsWritable) :
    IsBareWord x.text := by
  cases x with
  | finite negative rank =>
    cases negative with
    | false => exact (hx rfl).elim
    | true =>
      obtain ⟨hpositional, _⟩ :=
        (Decimal.shortest .up rank).isWrittenAs_positional
      have hchars : (Number.finite true rank).text.toList =
          '-' :: (Decimal.shortest .up rank).positional.toList := by
        simp [text, sign]
      refine ⟨?_, ⟨'-', _, hchars, by decide⟩, ?_⟩
      · intro c hc
        rw [hchars] at hc
        rcases List.mem_cons.mp hc with rfl | hc
        · decide
        rcases hpositional.isDigit_or_point hc with hdigit | rfl
        · exact isRunChar_iff.mp (isRunChar_of_isDigit hdigit)
        · decide
      · simp [← String.toList_inj, hchars]
  | infinite negative =>
    cases negative with
    | false =>
      exact ⟨forall_ne_of_all (by decide), ⟨'i', ['n', 'f'], rfl, by decide⟩,
        by decide⟩
    | true =>
      exact ⟨forall_ne_of_all (by decide),
        ⟨'-', ['i', 'n', 'f'], rfl, by decide⟩, by decide⟩
  | nan =>
    exact ⟨forall_ne_of_all (by decide), ⟨'N', ['a', 'N'], rfl, by decide⟩,
      by decide⟩

namespace Operand

/-- What is read where this operand was written. -/
def readBack : Operand → Operand
  | .literal (.number (.finite false rank)) =>
    .literal (.number (.finite false rank))
  | .literal (.number x) => .reference x.text
  | operand => operand

theorem text_readBack (x : Operand) : x.readBack.text = x.text := by
  unfold readBack
  split <;> rfl

theorem isWritable_readBack_literal (value : Literal) :
    (Operand.literal value).readBack.IsWritable := by
  cases value with
  | number x =>
    cases x with
    | finite negative rank =>
      cases negative with
      | false => rfl
      | true => exact Number.isBareWord_text (by simp [Number.IsWritable])
    | infinite negative => exact Number.isBareWord_text id
    | nan => exact Number.isBareWord_text id
  | string value => trivial
  | boolean value => trivial

theorem IsWritable.readBack_of_equals {x y : Operand} (hx : x.IsWritable)
    (hequals : x.equals y = true) : y.readBack.IsWritable := by
  cases y with
  | literal value => exact isWritable_readBack_literal value
  | reference name =>
    cases x with
    | literal value => simp [equals] at hequals
    | reference name' =>
      obtain rfl : name' = name := by simpa [equals] using hequals
      exact hx

theorem isWritable_of_readBack {x : Operand} (hx : x.readBack.IsWritable)
    (hequals : x.readBack.equals x = true) : x.IsWritable := by
  cases x with
  | reference name => exact hx
  | literal value =>
    cases value with
    | string value => trivial
    | boolean value => trivial
    | number x =>
      cases x with
      | finite negative rank =>
        cases negative with
        | false => rfl
        | true => simp [readBack, equals] at hequals
      | infinite negative => simp [readBack, equals] at hequals
      | nan => simp [readBack, equals] at hequals

theorem IsWritable.equals_self {x : Operand} (hx : x.IsWritable) :
    x.equals x = true := by
  cases x with
  | reference name => simp [equals]
  | literal value =>
    cases value with
    | string value => simp [equals, Literal.equals]
    | boolean value => simp [equals, Literal.equals]
    | number x =>
      cases x with
      | finite negative rank =>
        cases negative <;>
          simp [equals, Literal.equals, Number.equals, Number.order]
      | infinite negative => exact hx.elim
      | nan => exact hx.elim

end Operand

namespace Statement

def readBack (s : Statement) : Statement :=
  ⟨s.left.readBack, s.operator, s.right.map Operand.readBack⟩

theorem text_readBack (s : Statement) : s.readBack.text = s.text := by
  cases hright : s.right <;>
    simp [text, readBack, hright, Operand.text_readBack]

/-- Equal statements have equal parts. -/
theorem equals_iff {s t : Statement} :
    s.equals t = true ↔ s.left.equals t.left = true ∧
      s.operator = t.operator ∧
      Option.Rel (fun x y => x.equals y = true) s.right t.right := by
  cases hs : s.right <;> cases ht : t.right <;>
    simp [equals, hs, ht, and_assoc]

theorem IsWritable.readBack_of_equals {s t : Statement} (hs : s.IsWritable)
    (hequals : s.equals t = true) : t.readBack.IsWritable := by
  obtain ⟨hleft, hoperator, hright⟩ := equals_iff.mp hequals
  refine ⟨hs.left.readBack_of_equals hleft, ?_, ?_⟩
  · have hword := hs.operator
    rw [hoperator] at hword
    exact hword
  · intro y hy
    obtain ⟨x, hx, rfl⟩ := Option.map_eq_some_iff.mp hy
    rw [hx] at hright
    cases hsRight : s.right with
    | none =>
      rw [hsRight] at hright
      cases hright
    | some w =>
      rw [hsRight] at hright
      cases hright with
      | some hwx => exact (hs.right w hsRight).readBack_of_equals hwx

theorem isWritable_of_readBack {s : Statement} (hs : s.readBack.IsWritable)
    (hequals : s.readBack.equals s = true) : s.IsWritable := by
  obtain ⟨hleft, -, hright⟩ := equals_iff.mp hequals
  refine ⟨Operand.isWritable_of_readBack hs.left hleft, hs.operator, ?_⟩
  intro x hx
  have hread : s.readBack.right = some x.readBack :=
    Option.map_eq_some_iff.mpr ⟨x, hx, rfl⟩
  have hwritable : x.readBack.IsWritable := hs.right x.readBack hread
  rw [hread, Option.mem_def.mp hx] at hright
  cases hright with
  | some hxx => exact Operand.isWritable_of_readBack hwritable hxx

theorem IsWritable.equals_self {s : Statement} (hs : s.IsWritable) :
    s.equals s = true := by
  refine equals_iff.mpr ⟨hs.left.equals_self, rfl, ?_⟩
  cases hright : s.right with
  | none => exact .none
  | some x => exact .some (hs.right x hright).equals_self

end Statement

/-! ## Whole groups -/

namespace Group

theorem IsWellFormed.parseWithin_text {g : Group Statement}
    {limit : Option Nat} (hg : g.IsWellFormed) (hfits : g.FitsWithin limit 0) :
    parseWithin limit (g.text Statement.text) = .ok g :=
  parseWithin_of_scans hg.filter hfits (spells_text hg.writable).scans

theorem IsWellFormed.parse_text {g : Group Statement} (hg : g.IsWellFormed) :
    parseWithin none (g.text Statement.text) = .ok g :=
  hg.parseWithin_text (g.fitsWithin_none 0)

theorem isWellFormed_of_parseWithin {limit : Option Nat} {text : String}
    {g : Group Statement} (hparse : parseWithin limit text = .ok g) :
    g.IsWellFormed := by
  have hscans := scans_of_parseWithin hparse
  have htokens :=
    Cursor.isWritable_of_yields (Cursor.scans_iff_yields.mp hscans)
  exact ⟨isFilter_of_parseWithin hparse,
    g.forall_tokens_isWritable_iff.mp htokens⟩

/-- A group whose text is parsed to an equal one reads back, number by number,
as what was parsed. -/
theorem IsWellFormed.map_readBack {g h : Group Statement}
    (hh : h.IsWellFormed) (hequals : h.equalsBy Statement.equals g = true) :
    (g.map Statement.readBack).IsWellFormed := by
  have hrelated := equalsBy_iff_related.mp hequals
  have hshape := related_map Statement.readBack g
  refine ⟨?_, ?_⟩
  · rw [← hshape.isFilter_iff, ← hrelated.isFilter_iff]
    exact hh.filter
  · intro t ht
    rw [flat_map] at ht
    obtain ⟨s, hs, rfl⟩ := List.mem_map.mp ht
    obtain ⟨u, hu, hus⟩ := hrelated.symm.exists_right hs
    exact (hh.writable u hu).readBack_of_equals hus

theorem text_map_readBack (g : Group Statement) :
    (g.map Statement.readBack).text Statement.text =
      g.text Statement.text := by
  have hshape := related_map Statement.readBack g
  symm
  apply hshape.text_eq
  rintro s t rfl
  exact s.text_readBack.symm

theorem isWellFormed_of_parse_equal {limit : Option Nat}
    {g h : Group Statement}
    (hparse : parseWithin limit (g.text Statement.text) = .ok h)
    (hequals : h.equalsBy Statement.equals g = true) : g.IsWellFormed := by
  have hread :=
    (isWellFormed_of_parseWithin hparse).map_readBack hequals
  have hunlimited := parseWithin_of_scans (isFilter_of_parseWithin hparse)
    (h.fitsWithin_none 0) (scans_of_parseWithin hparse)
  have hreparse := hread.parse_text
  rw [text_map_readBack, hunlimited, Except.ok.injEq] at hreparse
  subst hreparse
  have hshape := related_map Statement.readBack g
  have hpairs := hshape.and (equalsBy_iff_related.mp hequals).symm
  refine ⟨hshape.isFilter_iff.mpr hread.filter, ?_⟩
  intro s hs
  obtain ⟨t, ht, rfl, hts⟩ := hpairs.exists_right hs
  exact Statement.isWritable_of_readBack (hread.writable _ ht) hts

theorem IsWellFormed.equalsBy_self {g : Group Statement}
    (hg : g.IsWellFormed) : g.equalsBy Statement.equals g = true := by
  have hself : Related (fun s t => s.equals t = true) g g :=
    related_self fun s hs => (hg.writable s hs).equals_self
  exact equalsBy_iff_related.mpr hself

/-- Within a limit that the group fits, its text is parsed to it just when it is
well formed. -/
theorem parseWithin_text_iff {g : Group Statement} {limit : Option Nat}
    (hfits : g.FitsWithin limit 0) :
    parseWithin limit (g.text Statement.text) = .ok g ↔ g.IsWellFormed := by
  constructor
  · exact isWellFormed_of_parseWithin
  · intro hg
    exact hg.parseWithin_text hfits

/-- Numeric equality of what is parsed is no weaker than identity. -/
theorem exists_parse_equal_iff {g : Group Statement} {limit : Option Nat}
    (hfits : g.FitsWithin limit 0) :
    (∃ h, parseWithin limit (g.text Statement.text) = .ok h ∧
      h.equalsBy Statement.equals g = true) ↔ g.IsWellFormed := by
  constructor
  · rintro ⟨h, hparse, hequals⟩
    exact isWellFormed_of_parse_equal hparse hequals
  · intro hg
    exact ⟨g, hg.parseWithin_text hfits, hg.equalsBy_self⟩

/-- Parsing makes well-formed groups only, and a group is parsed from its own
text, identically or up to numeric equality, just when it is well formed. -/
theorem parse_text_iff_isWellFormed :
    (∀ (limit : Option Nat) (text : String) (g : Group Statement),
      parseWithin limit text = .ok g → g.IsWellFormed) ∧
    (∀ g : Group Statement,
      parseWithin none (g.text Statement.text) = .ok g ↔ g.IsWellFormed) ∧
    (∀ g : Group Statement,
      (∃ h, parseWithin none (g.text Statement.text) = .ok h ∧
        h.equalsBy Statement.equals g = true) ↔ g.IsWellFormed) := by
  refine ⟨?_, ?_, ?_⟩
  · intro limit text g hparse
    exact isWellFormed_of_parseWithin hparse
  · intro g
    exact ⟨isWellFormed_of_parseWithin, IsWellFormed.parse_text⟩
  · intro g
    constructor
    · rintro ⟨h, hparse, hequals⟩
      exact isWellFormed_of_parse_equal hparse hequals
    · intro hg
      exact ⟨g, hg.parse_text, hg.equalsBy_self⟩

theorem parse_text_nested :
    ∃ g : Group Statement,
      parseWithin none "( (a lt 1.0) AND 'x' unset )" = .ok g ∧
      g.IsWellFormed ∧
      g.text Statement.text = "((a lt 1) AND \"x\" unset)" ∧
      parseWithin none "((a lt 1) AND \"x\" unset)" = .ok g := by
  obtain ⟨g, hparse, htext⟩ : ∃ g : Group Statement,
      parseWithin none "( (a lt 1.0) AND 'x' unset )" = .ok g ∧
      g.text Statement.text = "((a lt 1) AND \"x\" unset)" := by
    refine ⟨.nested
      (.nested
        (.statement ⟨.reference "a", "lt", some (.literal (.number
          (.finite false ⟨4607182418800017408, by decide⟩)))⟩ .empty)
        (.connective .and
          (.statement ⟨.literal (.string "x"), "unset", none⟩ .empty)))
      .empty, ?_, ?_⟩
    · decide +kernel
    · decide +kernel
  have hg := parse_text_iff_isWellFormed.1 none _ g hparse
  have hreparse := (parse_text_iff_isWellFormed.2.1 g).mpr hg
  rw [htext] at hreparse
  exact ⟨g, hparse, hg, htext, hreparse⟩

end Group

end FilterLanguage
