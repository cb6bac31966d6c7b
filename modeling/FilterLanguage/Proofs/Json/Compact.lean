import FilterLanguage.Proofs.Json.Quoted
import FilterLanguage.Proofs.Number.JsonText

/-!
# Compact texts tell their values

The compact text of a value, with whatever may follow it inside an array or an
object, determines the value and what follows.  A first character tells
strings, arrays and objects from the other values; those end before the first
character that is not theirs.  Numbers without a JSON form are written like
null, so they are left out.
-/

namespace FilterLanguage

namespace Json

variable {x y : Json} {rest rest' : List Char}

def chars (x : Json) : List Char := x.compact.toList

/-- Values that are written without quotes and brackets. -/
inductive IsAtom : Json → Prop
  | null : IsAtom .null
  | boolean (value : Bool) : IsAtom (.boolean value)
  | number {value : Number} (hfinite : value.isFinite = true) :
      IsAtom (.number value)
  | natural (value : ℕ) : IsAtom (.natural value)

/-- Every number in the value has a JSON form. -/
inductive IsExact : Json → Prop
  | atom {x : Json} (hatom : IsAtom x) : IsExact x
  | string (value : String) : IsExact (.string value)
  | array {items : List Json} (hitems : ∀ item ∈ items, IsExact item) :
      IsExact (.array items)
  | object {fields : List (String × Json)}
      (hfields : ∀ field ∈ fields, IsExact field.2) : IsExact (.object fields)

/-! ## Atoms -/

def isAtomChar (c : Char) : Bool := c.isAlphanum || c ∈ ['.', '-', '+']

def readAtom? (text : List Char) : Option Json :=
  match text with
  | [] => none
  | 'n' :: _ => some .null
  | 't' :: _ => some (.boolean true)
  | 'f' :: _ => some (.boolean false)
  | _ =>
    if text.all Char.isDigit then
      some (.natural (Nat.ofDigitChars 10 text 0))
    else (Number.read? (String.ofList text)).map .number

theorem readAtom?_cons {first : Char}
    (hfirst : first.isDigit = true ∨ first = '-') (text : List Char) :
    readAtom? (first :: text) =
      if (first :: text).all Char.isDigit then
        some (.natural (Nat.ofDigitChars 10 (first :: text) 0))
      else (Number.read? (String.ofList (first :: text))).map .number := by
  rcases hfirst with hdigit | rfl
  · have hn : first ≠ 'n' := Number.ne_of_isDigit hdigit rfl
    have ht : first ≠ 't' := Number.ne_of_isDigit hdigit rfl
    have hf : first ≠ 'f' := Number.ne_of_isDigit hdigit rfl
    simp [readAtom?, hn, ht, hf]
  · rfl

theorem chars_natural (value : ℕ) :
    (natural value).chars = Nat.toDigits 10 value := Nat.toList_repr

theorem readAtom?_chars (hatom : IsAtom x) : readAtom? x.chars = some x := by
  cases hatom with
  | null => rfl
  | boolean value => cases value <;> rfl
  | @number value hfinite =>
    have hnumeral := Number.isNumeral_json hfinite
    obtain ⟨first, rest, htext, hfirst⟩ := hnumeral.begins
    have hmarked : ¬ (first :: rest).all Char.isDigit = true := by
      rw [← htext, List.all_eq_true]
      intro hdigits
      rcases hnumeral.marked with hpoint | hexponent
      · exact absurd (hdigits _ hpoint) (by decide)
      · exact absurd (hdigits _ hexponent) (by decide)
    have hread := Number.read?_json hfinite
    change readAtom? value.json.toList = _
    rw [htext, readAtom?_cons hfirst, if_neg hmarked, ← htext,
      String.ofList_toList, hread, Option.map_some]
  | natural value =>
    have hdigits : (Nat.toDigits 10 value).all Char.isDigit = true :=
      List.all_eq_true.mpr fun _ hc => Decimal.isDigit_of_mem_toDigits hc
    have hvalue : Nat.ofDigitChars 10 (Nat.toDigits 10 value) 0 = value :=
      Nat.ofDigitChars_ten_toDigits
    rw [chars_natural]
    cases hcase : Nat.toDigits 10 value with
    | nil => exact (Nat.toDigits_ne_nil hcase).elim
    | cons first rest =>
      rw [hcase] at hdigits hvalue
      have hfirst := List.all_eq_true.mp hdigits first List.mem_cons_self
      rw [readAtom?_cons (.inl hfirst), if_pos hdigits, hvalue]

theorem isAtomChar_of_mem_chars (hatom : IsAtom x) :
    ∀ c ∈ x.chars, isAtomChar c = true := by
  have hdigit : ∀ c : Char, c.isDigit = true → isAtomChar c = true := by
    intro c hc
    simp [isAtomChar, Char.isAlphanum, hc]
  have hmark : ∀ c ∈ ['.', 'e', '-', '+'], isAtomChar c = true :=
    List.all_eq_true.mp rfl
  cases hatom with
  | null => exact List.all_eq_true.mp rfl
  | boolean value => cases value <;> exact List.all_eq_true.mp rfl
  | number hfinite =>
    intro c hc
    exact ((Number.isNumeral_json hfinite).plain c hc).elim (hdigit c) (hmark c)
  | natural value =>
    intro c hc
    rw [chars_natural] at hc
    exact hdigit c (Decimal.isDigit_of_mem_toDigits hc)

theorem chars_ne_nil (hatom : IsAtom x) : x.chars ≠ [] := by
  intro hnil
  have hread := readAtom?_chars hatom
  rw [hnil] at hread
  contradiction

/-! ## Where a value ends -/

def marks : List Char := [',', ']', '\x7d']

/-- What may stand behind a value: nothing, a comma or a closing bracket. -/
inductive Follows : List Char → Prop
  | nil : Follows []
  | mark {c : Char} (hmark : c ∈ marks) (rest : List Char) :
      Follows (c :: rest)

theorem isAtomChar_of_mem_marks {c : Char} (hmark : c ∈ marks) :
    isAtomChar c = false := by
  simp only [marks, List.mem_cons, List.not_mem_nil, or_false] at hmark
  rcases hmark with rfl | rfl | rfl <;> rfl

theorem takeWhile_isAtomChar {text : List Char}
    (htext : ∀ c ∈ text, isAtomChar c = true) (hrest : Follows rest) :
    (text ++ rest).takeWhile isAtomChar = text := by
  rw [List.takeWhile_append_of_pos htext]
  cases hrest with
  | nil => simp
  | mark hmark rest => simp [isAtomChar_of_mem_marks hmark]

theorem atom_append_cancel (hx : IsAtom x) (hy : IsAtom y)
    (hrest : Follows rest) (hrest' : Follows rest')
    (htext : x.chars ++ rest = y.chars ++ rest') : x = y ∧ rest = rest' := by
  have hsame : x.chars = y.chars := by
    rw [← takeWhile_isAtomChar (isAtomChar_of_mem_chars hx) hrest, htext,
      takeWhile_isAtomChar (isAtomChar_of_mem_chars hy) hrest']
  rw [hsame, List.append_cancel_left_eq] at htext
  have hread := readAtom?_chars hx
  rw [hsame, readAtom?_chars hy] at hread
  exact ⟨(Option.some.inj hread).symm, htext⟩

/-! ## Parts of arrays and objects -/

section Parts

variable {α : Type} {write : α → List Char} {P : α → Prop} {close : Char}

/-- The text of a part tells it from all others and where it ends. -/
def IsToldApart (write : α → List Char) (P : α → Prop) (a : α) : Prop :=
  ∀ {b : α} {rest rest' : List Char}, P b → Follows rest → Follows rest' →
    write a ++ rest = write b ++ rest' → a = b ∧ rest = rest'

/-- Parts with a comma before each, and the closing bracket. -/
def further (close : Char) : List (List Char) → List Char
  | [] => [close]
  | part :: parts => ',' :: (part ++ further close parts)

/-- Parts with a comma between them, and the closing bracket. -/
def closed (close : Char) : List (List Char) → List Char
  | [] => [close]
  | part :: parts => part ++ further close parts

theorem intercalate_append_close (close : Char) (parts : List (List Char)) :
    [','].intercalate parts ++ [close] = closed close parts := by
  cases parts with
  | nil => rfl
  | cons part parts =>
    induction parts generalizing part with
    | nil => simp [closed, further]
    | cons next parts ih =>
      rw [List.intercalate_cons_cons, List.append_assoc, ih]
      simp [closed, further]

theorem follows_further (hclose : close ∈ [']', '\x7d'])
    (parts : List (List Char)) (rest : List Char) :
    Follows (further close parts ++ rest) := by
  cases parts with
  | nil => exact .mark (List.mem_cons_of_mem _ hclose) rest
  | cons part parts => exact .mark List.mem_cons_self _

theorem further_append_cancel (hclose : close ∈ [']', '\x7d'])
    {as bs : List α} (has : ∀ a ∈ as, IsToldApart write P a)
    (hbs : ∀ b ∈ bs, P b)
    (htext : further close (as.map write) ++ rest =
      further close (bs.map write) ++ rest') : as = bs ∧ rest = rest' := by
  have hcomma : ',' ≠ close := by
    rintro rfl
    exact absurd hclose (by decide)
  induction as generalizing bs with
  | nil =>
    cases bs with
    | nil => simpa [further] using htext
    | cons b bs => simp [further, hcomma.symm] at htext
  | cons a as ih =>
    cases bs with
    | nil => simp [further, hcomma] at htext
    | cons b bs =>
      obtain ⟨ha, hlater⟩ := List.forall_mem_cons.mp has
      obtain ⟨hb, hlater'⟩ := List.forall_mem_cons.mp hbs
      have hparts : write a ++ (further close (as.map write) ++ rest) =
          write b ++ (further close (bs.map write) ++ rest') := by
        simpa [further] using htext
      obtain ⟨rfl, hbehind⟩ := ha hb (follows_further hclose _ _)
        (follows_further hclose _ _) hparts
      obtain ⟨rfl, rfl⟩ := ih hlater hlater' hbehind
      exact ⟨rfl, rfl⟩

/-- A first part does not begin with a mark, so that it is not taken for the
closing bracket. -/
theorem closed_nil_ne (hclose : close ∈ [']', '\x7d']) {a : α} {as : List α}
    (hbegins : ∀ rest, ¬ Follows (write a ++ rest)) :
    closed close [] ++ rest ≠ closed close ((a :: as).map write) ++ rest' := by
  intro htext
  have hfollows : Follows (closed close [] ++ rest) :=
    .mark (List.mem_cons_of_mem _ hclose) rest
  rw [htext, List.map_cons, closed, List.append_assoc] at hfollows
  exact hbegins _ hfollows

theorem closed_append_cancel (hclose : close ∈ [']', '\x7d'])
    (hbegins : ∀ a, P a → ∀ rest, ¬ Follows (write a ++ rest))
    {as bs : List α} (has : ∀ a ∈ as, P a)
    (htold : ∀ a ∈ as, IsToldApart write P a) (hbs : ∀ b ∈ bs, P b)
    (htext : closed close (as.map write) ++ rest =
      closed close (bs.map write) ++ rest') : as = bs ∧ rest = rest' := by
  cases as with
  | nil =>
    cases bs with
    | nil => simpa [closed] using htext
    | cons b bs =>
      have hb := hbegins b (hbs b List.mem_cons_self)
      exact (closed_nil_ne hclose hb htext).elim
  | cons a as =>
    cases bs with
    | nil =>
      have ha := hbegins a (has a List.mem_cons_self)
      exact (closed_nil_ne hclose ha htext.symm).elim
    | cons b bs =>
      refine further_append_cancel hclose htold hbs ?_
      simpa [further, closed] using htext

end Parts

/-! ## Values -/

def fieldText (field : String × Json) : List Char :=
  (quote field.1).toList ++ ':' :: field.2.chars

theorem toList_quote (value : String) :
    (quote value).toList =
      '"' :: (value.toList.flatMap escapeChar ++ ['"']) := by
  simp [quote]

theorem chars_array (items : List Json) :
    (array items).chars = '[' :: closed ']' (items.map chars) := by
  have hitems : (compactItems items).map String.toList = items.map chars := by
    induction items with
    | nil => rfl
    | cons item items ih =>
      rw [compactItems, List.map_cons, ih, List.map_cons, chars]
  rw [← intercalate_append_close, ← hitems]
  simp [chars, compact]

theorem chars_object (fields : List (String × Json)) :
    (object fields).chars =
      '\x7b' :: closed '\x7d' (fields.map fieldText) := by
  have hfields : (compactFields fields).map String.toList =
      fields.map fieldText := by
    induction fields with
    | nil => rfl
    | cons field fields ih =>
      rw [compactFields, List.map_cons, ih, List.map_cons]
      simp [fieldText, chars]
  rw [← intercalate_append_close, ← hfields]
  simp [chars, compact]

/-- The character that opens a value that is not an atom. -/
def opening? : Json → Option Char
  | .string _ => some '"'
  | .array _ => some '['
  | .object _ => some '\x7b'
  | _ => none

theorem opening?_eq_none (hatom : IsAtom x) : x.opening? = none := by
  cases hatom <;> rfl

theorem IsExact.begins (hx : IsExact x) :
    ∃ first tail, x.chars = first :: tail ∧ first ∉ marks ∧
      x.opening? = if isAtomChar first then none else some first := by
  cases hx with
  | atom hatom =>
    cases hcase : x.chars with
    | nil => exact (chars_ne_nil hatom hcase).elim
    | cons first tail =>
      have hfirst := isAtomChar_of_mem_chars hatom first (by simp [hcase])
      refine ⟨first, tail, rfl, ?_, ?_⟩
      · intro hmark
        rw [isAtomChar_of_mem_marks hmark] at hfirst
        contradiction
      · rw [if_pos hfirst, opening?_eq_none hatom]
  | string value => exact ⟨_, _, toList_quote value, by decide, rfl⟩
  | array hitems => exact ⟨_, _, chars_array _, by decide, rfl⟩
  | object hfields => exact ⟨_, _, chars_object _, by decide, rfl⟩

theorem opening?_eq (hx : IsExact x) (hy : IsExact y)
    (htext : x.chars ++ rest = y.chars ++ rest') : x.opening? = y.opening? := by
  obtain ⟨first, tail, hcons, -, hopening⟩ := hx.begins
  obtain ⟨first', tail', hcons', -, hopening'⟩ := hy.begins
  rw [hcons, hcons', List.cons_append, List.cons_append,
    List.cons.injEq] at htext
  rw [hopening, hopening', htext.1]

theorem not_follows_chars (hx : IsExact x) (rest : List Char) :
    ¬ Follows (x.chars ++ rest) := by
  obtain ⟨first, tail, hcons, hfirst, -⟩ := hx.begins
  rw [hcons]
  intro hfollows
  cases hfollows with
  | mark hmark => exact hfirst hmark

theorem not_follows_fieldText (field : String × Json) (rest : List Char) :
    ¬ Follows (fieldText field ++ rest) := by
  rw [fieldText, toList_quote]
  intro hfollows
  cases hfollows with
  | mark hmark => exact absurd hmark (by decide)

theorem isToldApart_fieldText {field : String × Json}
    (hvalue : IsToldApart chars IsExact field.2) :
    IsToldApart fieldText (fun field => IsExact field.2) field := by
  rcases field with ⟨name, value⟩
  rintro ⟨name', value'⟩ rest rest' hexact hrest hrest' htext
  simp only [fieldText, List.append_assoc, List.cons_append] at htext
  obtain ⟨rfl, hbehind⟩ := JsonReader.quote_append_cancel htext
  rw [List.cons.injEq] at hbehind
  obtain ⟨rfl, rfl⟩ := hvalue hexact hrest hrest' hbehind.2
  exact ⟨rfl, rfl⟩

theorem IsExact.isAtom (hx : IsExact x) (hopening : x.opening? = none) :
    IsAtom x := by
  cases hx with
  | atom hatom => exact hatom
  | string value => contradiction
  | array hitems => contradiction
  | object hfields => contradiction

theorem IsExact.items {items : List Json} (hx : IsExact (.array items)) :
    ∀ item ∈ items, IsExact item := by
  cases hx with
  | atom hatom => contradiction
  | array hitems => exact hitems

theorem IsExact.fields {fields : List (String × Json)}
    (hx : IsExact (.object fields)) : ∀ field ∈ fields, IsExact field.2 := by
  cases hx with
  | atom hatom => contradiction
  | object hfields => exact hfields

theorem IsExact.isToldApart (hx : IsExact x) :
    IsToldApart chars IsExact x := by
  induction hx with
  | atom hatom =>
    intro y rest rest' hy hrest hrest' htext
    have hopening := opening?_eq (.atom hatom) hy htext
    rw [opening?_eq_none hatom] at hopening
    exact atom_append_cancel hatom (hy.isAtom hopening.symm) hrest hrest' htext
  | string value =>
    intro y rest rest' hy hrest hrest' htext
    have hopening := opening?_eq (.string value) hy htext
    cases y with
    | string value' =>
      obtain ⟨rfl, rfl⟩ := JsonReader.quote_append_cancel htext
      exact ⟨rfl, rfl⟩
    | _ => simp [opening?] at hopening
  | @array items hitems ih =>
    intro y rest rest' hy hrest hrest' htext
    have hopening := opening?_eq (.array hitems) hy htext
    cases y with
    | array items' =>
      rw [chars_array, chars_array, List.cons_append, List.cons_append,
        List.cons.injEq] at htext
      obtain ⟨rfl, rfl⟩ := closed_append_cancel (by decide)
        (fun _ => not_follows_chars) hitems ih hy.items htext.2
      exact ⟨rfl, rfl⟩
    | _ => simp [opening?] at hopening
  | @object fields hfields ih =>
    intro y rest rest' hy hrest hrest' htext
    have hopening := opening?_eq (.object hfields) hy htext
    cases y with
    | object fields' =>
      rw [chars_object, chars_object, List.cons_append, List.cons_append,
        List.cons.injEq] at htext
      obtain ⟨rfl, rfl⟩ := closed_append_cancel (by decide)
        (fun field _ => not_follows_fieldText field) hfields
        (fun field hfield => isToldApart_fieldText (ih field hfield))
        hy.fields htext.2
      exact ⟨rfl, rfl⟩
    | _ => simp [opening?] at hopening

/-- Values that have a JSON form are the same when their compact texts are. -/
theorem compact_inj (hx : IsExact x) (hy : IsExact y) :
    x.compact = y.compact ↔ x = y := by
  constructor
  · intro htext
    have hlist : x.chars ++ [] = y.chars ++ [] := by
      rw [chars, chars, htext]
    exact (hx.isToldApart hy .nil .nil hlist).1
  · intro hvalue
    rw [hvalue]

end Json

end FilterLanguage
