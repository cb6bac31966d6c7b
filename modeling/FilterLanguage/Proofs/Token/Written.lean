import FilterLanguage.Proofs.Number.RoundTrip
import FilterLanguage.Proofs.Text.Quoted
import FilterLanguage.Proofs.Group.Grammar

/-!
# Written tokens

A token is writable when it has a text that scans back to it: names and
operators have to be bare words, and numbers finite without a sign.  Reading a
run gives writable tokens only.
-/

namespace FilterLanguage

/-- The text scans as a name: it holds no space and no parenthesis, starts like
no other literal, and is no keyword. -/
structure IsBareWord (name : String) : Prop where
  run : ∀ c ∈ name.toList, c ≠ ' ' ∧ c ≠ '(' ∧ c ≠ ')'
  first : ∃ c rest, name.toList = c :: rest ∧
    c ≠ '\'' ∧ c ≠ '"' ∧ c ≠ '.' ∧ c.isDigit = false
  notKeyword : name ∉ ["true", "false", "AND", "OR"]

/-- The number is finite and its sign bit is clear. -/
def Number.IsWritable : Number → Prop
  | .finite negative _ => negative = false
  | _ => False

def Literal.IsWritable : Literal → Prop
  | .number value => value.IsWritable
  | _ => True

def Operand.IsWritable : Operand → Prop
  | .literal value => value.IsWritable
  | .reference name => IsBareWord name

structure Statement.IsWritable (s : Statement) : Prop where
  left : s.left.IsWritable
  operator : IsBareWord s.operator
  right : ∀ x ∈ s.right, x.IsWritable

namespace Token

def IsWritable : Token → Prop
  | .literal value => value.IsWritable
  | .reference name => IsBareWord name
  | _ => True

def text : Token → String
  | .literal value => value.text
  | .reference name => name
  | .connective c => c.text
  | .groupBegin => "("
  | .groupEnd => ")"

@[simp] theorem isWritable_connective (c : Connective) :
    (connective c).IsWritable := trivial

@[simp] theorem isWritable_groupBegin : groupBegin.IsWritable := trivial

@[simp] theorem isWritable_groupEnd : groupEnd.IsWritable := trivial

/-- The token is written as a run, which the next character might lengthen. -/
def isRun : Token → Bool
  | .literal (.string _) | .groupBegin | .groupEnd => false
  | _ => true

end Token

@[simp] theorem Operand.isWritable_token (x : Operand) :
    x.token.IsWritable ↔ x.IsWritable := by
  cases x <;> rfl

@[simp] theorem Operand.text_token (x : Operand) : x.token.text = x.text := by
  cases x <;> rfl

theorem Statement.forall_tokens_isWritable_iff (s : Statement) :
    (∀ token ∈ s.tokens, token.IsWritable) ↔ s.IsWritable := by
  rw [Statement.tokens_eq]
  constructor
  · intro htokens
    refine ⟨?_, htokens (.reference s.operator) (by simp), ?_⟩
    · exact s.left.isWritable_token.mp (htokens _ (by simp))
    · intro x hx
      exact x.isWritable_token.mp (htokens _ (by simp [Option.mem_def.mp hx]))
  · intro hs token htoken
    rcases List.mem_cons.mp htoken with rfl | htoken
    · exact s.left.isWritable_token.mpr hs.left
    rcases List.mem_cons.mp htoken with rfl | htoken
    · exact hs.operator
    · obtain ⟨x, hx, rfl⟩ := Option.map_eq_some_iff.mp
        (Option.mem_toList.mp htoken)
      exact x.isWritable_token.mpr (hs.right x hx)

theorem Group.forall_tokens_isWritable_iff (g : Group Statement) :
    (∀ token ∈ g.tokens, token.IsWritable) ↔ ∀ s ∈ g.flat, s.IsWritable := by
  induction g with
  | empty => simp [tokens, flat]
  | statement s rest ih =>
    simp only [tokens, flat, List.mem_append, or_imp, forall_and,
      List.forall_mem_cons, ih, s.forall_tokens_isWritable_iff]
  | connective c rest ih =>
    simp only [tokens, flat, List.forall_mem_cons, ih,
      Token.isWritable_connective, true_and]
  | nested inner rest ihInner ihRest =>
    simp only [tokens, flat, List.mem_append, or_imp, forall_and,
      List.forall_mem_cons, ihInner, ihRest, Token.isWritable_groupBegin,
      Token.isWritable_groupEnd, true_and]

/-! ## Runs -/

/-- A run stops in front of this text. -/
def EndsRun (text : List Char) : Prop :=
  ∀ c ∈ text.head?, isRunChar c = false

theorem isRunChar_iff {c : Char} :
    isRunChar c = true ↔ c ≠ ' ' ∧ c ≠ '(' ∧ c ≠ ')' := by
  simp [isRunChar, and_assoc]

theorem forall_ne_of_all {text : List Char}
    (hrun : text.all isRunChar = true) :
    ∀ c ∈ text, c ≠ ' ' ∧ c ≠ '(' ∧ c ≠ ')' := by
  intro c hc
  exact isRunChar_iff.mp (List.all_eq_true.mp hrun c hc)

theorem takeWhile_run {run rest : List Char}
    (hrun : ∀ c ∈ run, isRunChar c = true) (hrest : EndsRun rest) :
    (run ++ rest).takeWhile isRunChar = run := by
  rw [List.takeWhile_append_of_pos hrun]
  cases rest with
  | nil => simp
  | cons c rest =>
    have hc : isRunChar c = false := hrest c rfl
    simp [hc]

theorem dropWhile_run {run rest : List Char}
    (hrun : ∀ c ∈ run, isRunChar c = true) (hrest : EndsRun rest) :
    (run ++ rest).dropWhile isRunChar = rest := by
  rw [List.dropWhile_append_of_pos hrun]
  cases rest with
  | nil => simp
  | cons c rest =>
    have hc : isRunChar c = false := hrest c rfl
    simp [hc]

theorem isRunChar_of_isDigit {c : Char} (hc : c.isDigit = true) :
    isRunChar c = true := by
  rw [isRunChar_iff]
  refine ⟨?_, ?_, ?_⟩ <;> rintro rfl <;> simp at hc

theorem isNumberStart_eq_false_iff {c : Char} :
    isNumberStart c = false ↔ c ≠ '.' ∧ c.isDigit = false := by
  simp [isNumberStart, and_comm]

/-- The characters of a token are a run that reads as the token. -/
structure Token.ReadsRun (token : Token) (first : Char) (tail : List Char) :
    Prop where
  doubleQuote : first ≠ '"'
  singleQuote : first ≠ '\''
  run : ∀ c ∈ first :: tail, isRunChar c = true
  reads : Token.ofRun? first (first :: tail) = some token

theorem Token.ReadsRun.of_all {token : Token} {first : Char} {tail : List Char}
    (hdouble : first ≠ '"') (hsingle : first ≠ '\'')
    (hrun : (first :: tail).all isRunChar = true)
    (hread : Token.ofRun? first (first :: tail) = some token) :
    token.ReadsRun first tail :=
  ⟨hdouble, hsingle, List.all_eq_true.mp hrun, hread⟩

theorem IsBareWord.readsRun {name : String} (hname : IsBareWord name) :
    ∃ first tail, name.toList = first :: tail ∧
      (Token.reference name).ReadsRun first tail := by
  obtain ⟨first, tail, hchars, hsingle, hdouble, hpoint, hdigit⟩ := hname.first
  refine ⟨first, tail, hchars, hdouble, hsingle, ?_, ?_⟩
  · intro c hc
    rw [← hchars] at hc
    exact isRunChar_iff.mpr (hname.run c hc)
  · have hstart : isNumberStart first = false :=
      isNumberStart_eq_false_iff.mpr ⟨hpoint, hdigit⟩
    have hkeyword := hname.notKeyword
    simp only [List.mem_cons, List.not_mem_nil, or_false, not_or] at hkeyword
    simp only [Token.ofRun?, hstart, ← hchars, String.toList_inj,
      hkeyword.1, hkeyword.2.1, hkeyword.2.2.1, hkeyword.2.2.2,
      String.ofList_toList, Bool.false_eq_true, if_false]

theorem Number.readsRun_text (rank : Fin rankCount) :
    ∃ first tail, (Number.finite false rank).text.toList = first :: tail ∧
      (Token.literal (.number (.finite false rank))).ReadsRun first tail := by
  obtain ⟨hpositional, _⟩ := Number.isWrittenAs_text rank
  have hread := Number.readUnsigned?_text rank
  obtain ⟨first, tail, hchars, hfirst⟩ := hpositional.exists_cons
  rw [hchars] at hpositional hread
  refine ⟨first, tail, hchars, ?_, ?_, ?_, ?_⟩
  · rintro rfl
    simp at hfirst
  · rintro rfl
    simp at hfirst
  · intro c hc
    rcases hpositional.isDigit_or_point hc with hdigit | rfl
    · exact isRunChar_of_isDigit hdigit
    · decide
  · simp [Token.ofRun?, isNumberStart, hfirst, hread, Number.isFinite]

theorem Token.exists_readsRun {token : Token} (hwritable : token.IsWritable)
    (hrun : token.isRun = true) :
    ∃ first tail, token.text.toList = first :: tail ∧
      token.ReadsRun first tail := by
  cases token with
  | literal value =>
    cases value with
    | number x =>
      cases x with
      | finite negative rank =>
        obtain rfl : negative = false := hwritable
        exact Number.readsRun_text rank
      | infinite negative => exact hwritable.elim
      | nan => exact hwritable.elim
    | string value => simp [isRun] at hrun
    | boolean value =>
      cases value with
      | true => exact ⟨'t', "rue".toList, rfl, by apply ReadsRun.of_all <;> decide⟩
      | false =>
        exact ⟨'f', "alse".toList, rfl, by apply ReadsRun.of_all <;> decide⟩
  | reference name => exact IsBareWord.readsRun hwritable
  | connective c =>
    cases c with
    | and => exact ⟨'A', "ND".toList, rfl, by apply ReadsRun.of_all <;> decide⟩
    | or => exact ⟨'O', "R".toList, rfl, by apply ReadsRun.of_all <;> decide⟩
  | groupBegin => simp [isRun] at hrun
  | groupEnd => simp [isRun] at hrun

/-! ## String literals -/

theorem Literal.text_string (value : String) :
    (Literal.string value).text.toList =
      '"' :: (Quoted.escape '"' value.toList ++ ['"']) := by
  rw [Literal.text, String.toList_ofList]

/-! ## What is read -/

theorem Number.isWritable_of_readUnsigned? {text : List Char} {value : Number}
    (hread : readUnsigned? text = some value) (hfinite : value.isFinite = true) :
    value.IsWritable := by
  have hofRank : ∀ rank, (ofRank false rank).isFinite = true →
      (ofRank false rank).IsWritable := by
    intro rank hrank
    unfold ofRank at hrank ⊢
    split
    next => rfl
    next hlarge => simp [hlarge, isFinite] at hrank
  obtain ⟨d, _, rfl⟩ := Option.map_eq_some_iff.mp hread
  unfold Decimal.toNumber at hfinite ⊢
  dsimp only at hfinite ⊢
  split at hfinite
  next hzero =>
    rw [if_pos hzero]
    exact hofRank _ hfinite
  next hzero =>
    rw [if_neg hzero]
    split at hfinite
    next => simp [isFinite] at hfinite
    next hlarge =>
      rw [if_neg hlarge]
      exact hofRank _ hfinite

theorem Token.isWritable_of_ofRun? {first : Char} {tail : List Char}
    {token : Token} (hdouble : first ≠ '"') (hsingle : first ≠ '\'')
    (hrun : ∀ c ∈ first :: tail, isRunChar c = true)
    (hread : ofRun? first (first :: tail) = some token) :
    token.IsWritable := by
  unfold ofRun? at hread
  split at hread
  next hstart =>
    split at hread
    next value hvalue =>
      split at hread
      next hfinite =>
        rw [Option.some.injEq] at hread
        subst hread
        exact Number.isWritable_of_readUnsigned? hvalue hfinite
      next => simp at hread
    next => simp at hread
  next hstart =>
    rw [Bool.not_eq_true] at hstart
    obtain ⟨hpoint, hdigit⟩ := isNumberStart_eq_false_iff.mp hstart
    split at hread
    next =>
      rw [Option.some.injEq] at hread
      exact hread ▸ trivial
    next htrue =>
    split at hread
    next =>
      rw [Option.some.injEq] at hread
      exact hread ▸ trivial
    next hfalse =>
    split at hread
    next =>
      rw [Option.some.injEq] at hread
      exact hread ▸ trivial
    next hand =>
    split at hread
    next =>
      rw [Option.some.injEq] at hread
      exact hread ▸ trivial
    next hor =>
      rw [Option.some.injEq] at hread
      subst hread
      have hchars := String.toList_ofList (l := first :: tail)
      refine ⟨?_, ⟨first, tail, hchars, hsingle, hdouble, hpoint, hdigit⟩, ?_⟩
      · intro c hc
        rw [hchars] at hc
        exact isRunChar_iff.mp (hrun c hc)
      · simp only [List.mem_cons, List.not_mem_nil, or_false, not_or,
          ← String.toList_inj, hchars]
        exact ⟨htrue, hfalse, hand, hor⟩

end FilterLanguage
