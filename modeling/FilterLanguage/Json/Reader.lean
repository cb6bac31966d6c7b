import FilterLanguage.Json.Numeral

/-!
# Reading JSON

Texts are read from left to right up to the end or the first fault.  Every
function returns what it read with the text that is left, or with nothing when
it came upon a fault.
-/

namespace FilterLanguage
namespace JsonReader

def isSpace (c : Char) : Bool :=
  c == ' ' || c == '\t' || c == '\n' || c == '\r'

def skip (text : List Char) : List Char := text.dropWhile isSpace

theorem skip_length (text : List Char) : (skip text).length ≤ text.length :=
  (List.dropWhile_sublist _).length_le

def hexValue? (c : Char) : Option Nat :=
  if c.isDigit then some (c.toNat - 48)
  else if 'a' ≤ c ∧ c ≤ 'f' then some (c.toNat - 87)
  else if 'A' ≤ c ∧ c ≤ 'F' then some (c.toNat - 55)
  else none

def readUnit : List Char → Except JsonFault (Nat × List Char)
  | a :: b :: c :: d :: rest =>
    match hexValue? a, hexValue? b, hexValue? c, hexValue? d with
    | some a, some b, some c, some d =>
      .ok (((a * 16 + b) * 16 + c) * 16 + d, rest)
    | _, _, _, _ => .error .badEscape
  | _ => .error .endOfString

def isLeading (unit : Nat) : Bool := 0xd800 ≤ unit && unit < 0xdc00

def isTrailing (unit : Nat) : Bool := 0xdc00 ≤ unit && unit < 0xe000

def readTrailing (leading : Nat) :
    List Char → Except JsonFault (Char × List Char)
  | '\\' :: 'u' :: rest =>
    match readUnit rest with
    | .ok (unit, rest) =>
      if isTrailing unit then
        .ok (Char.ofNat (0x10000 + (leading - 0xd800) * 0x400 + (unit - 0xdc00)),
          rest)
      else .error .loneSurrogate
    | .error f => .error f
  | [] | ['\\'] => .error .endOfString
  | _ => .error .endOfSurrogate

def letterEscape? (c : Char) : Option Char :=
  if c = '"' ∨ c = '\\' ∨ c = '/' then some c
  else if c = 'b' then some (Char.ofNat 8)
  else if c = 'f' then some (Char.ofNat 12)
  else if c = 'n' then some '\n'
  else if c = 'r' then some '\r'
  else if c = 't' then some '\t'
  else none

def readEscape : List Char → Except JsonFault (Char × List Char)
  | [] => .error .endOfString
  | 'u' :: rest =>
    match readUnit rest with
    | .ok (unit, rest) =>
      if isTrailing unit then .error .loneSurrogate
      else if isLeading unit then readTrailing unit rest
      else .ok (Char.ofNat unit, rest)
    | .error f => .error f
  | c :: rest =>
    match letterEscape? c with
    | some meant => .ok (meant, rest)
    | none => .error .badEscape

theorem readUnit_length {text rest : List Char} {unit : Nat}
    (h : readUnit text = .ok (unit, rest)) : rest.length < text.length := by
  unfold readUnit at h
  split at h
  · split at h
    · simp only [Except.ok.injEq, Prod.mk.injEq] at h
      rw [← h.2]
      simp only [List.length_cons]
      omega
    · simp at h
  · simp at h

theorem readTrailing_length {leading : Nat} {text rest : List Char} {c : Char}
    (h : readTrailing leading text = .ok (c, rest)) :
    rest.length < text.length := by
  unfold readTrailing at h
  split at h
  · split at h
    · next hunit =>
      split at h
      · simp only [Except.ok.injEq, Prod.mk.injEq] at h
        rw [← h.2]
        have := readUnit_length hunit
        simp only [List.length_cons]
        omega
      · simp at h
    · simp at h
  · simp at h
  · simp at h
  · simp at h

theorem readEscape_length {text rest : List Char} {c : Char}
    (h : readEscape text = .ok (c, rest)) : rest.length < text.length := by
  unfold readEscape at h
  split at h
  · simp at h
  · split at h
    · next hunit =>
      have hlt := readUnit_length hunit
      split at h
      · simp at h
      split at h
      · have := readTrailing_length h
        simp only [List.length_cons]
        omega
      · simp only [Except.ok.injEq, Prod.mk.injEq] at h
        rw [← h.2]
        simp only [List.length_cons]
        omega
    · simp at h
  · split at h
    · simp only [Except.ok.injEq, Prod.mk.injEq] at h
      rw [← h.2]
      simp
    · simp at h

def readText : List Char → Except JsonFault (List Char × List Char)
  | [] => .error .endOfString
  | c :: text =>
    if c = '"' then .ok ([], text)
    else if c = '\\' then
      match _hescape : readEscape text with
      | .error f => .error f
      | .ok (meant, rest) => Numeral.onValue (meant :: ·) (readText rest)
    else if c.toNat < 32 then .error .controlCharacter
    else Numeral.onValue (c :: ·) (readText text)
termination_by text => text.length
decreasing_by
  · have := readEscape_length _hescape
    simp only [List.length_cons]
    omega
  · simp

theorem readText_length {text value rest : List Char}
    (h : readText text = .ok (value, rest)) : rest.length < text.length := by
  fun_induction readText text generalizing value with
  | case1 => simp at h
  | case2 => simp_all
  | case3 => simp at h
  | case4 _ _ _ hescape _ ih =>
    obtain ⟨_, hread⟩ := Numeral.ok_of_onValue h
    have hrest := ih hread
    have := readEscape_length hescape
    simp only [List.length_cons]
    omega
  | case5 => simp at h
  | case6 _ _ _ _ _ ih =>
    obtain ⟨_, hread⟩ := Numeral.ok_of_onValue h
    have := ih hread
    simp only [List.length_cons]
    omega

/-- What is left of a text from which something was read. -/
abbrev Left (text : List Char) :=
  Option { rest : List Char // rest.length < text.length }

def Left.within {text rest : List Char} (h : rest.length < text.length)
    (left : Left rest) : Left text :=
  left.map fun after => ⟨after.val, Nat.lt_trans after.property h⟩

/-- Nothing can be read on from a malformed node. -/
def malformed (f : JsonFault) {text : List Char} : Node × Left text :=
  (.malformed f, none)

def readWord : List Char → List Char → Except JsonFault (List Char)
  | [], text => .ok text
  | _ :: _, [] => .error .endOfValue
  | letter :: word, c :: text =>
    if letter = c then readWord word text else .error .expectedWord

theorem readWord_length {word text rest : List Char}
    (h : readWord word text = .ok rest) : rest.length ≤ text.length := by
  fun_induction readWord word text with
  | case1 =>
    simp only [Except.ok.injEq] at h
    exact Nat.le_of_eq (congrArg List.length h.symm)
  | case2 => simp at h
  | case3 _ _ _ ih => exact Nat.le_succ_of_le (ih h)
  | case4 => simp at h

/-- A word of which the first letter was taken from `text`. -/
def word (node : Node) (letters : String) {text : List Char} (rest : List Char)
    (hrest : rest.length < text.length) : Node × Left text :=
  match hread : readWord letters.toList rest with
  | .error f => malformed f
  | .ok after =>
    (node, some ⟨after, Nat.lt_of_le_of_lt (readWord_length hread) hrest⟩)

def number (negative : Bool) (digits : List Char) : Node × Left digits :=
  match hread : Numeral.read digits with
  | .error f => malformed f
  | .ok n =>
    match n.value negative with
    | .malformed f => malformed f
    | node => (node, some ⟨n.rest, Numeral.read_rest_length hread⟩)

mutual

def readNode (text : List Char) : Node × Left text :=
  have hskip := skip_length text
  match hrest : skip text with
  | [] => malformed .endOfValue
  | c :: rest =>
    have hlt : rest.length < text.length := by
      rw [hrest] at hskip
      exact hskip
    if c = 'n' then word .null "ull" rest hlt
    else if c = 't' then word (.boolean true) "rue" rest hlt
    else if c = 'f' then word (.boolean false) "alse" rest hlt
    else if c = '-' then
      match number true rest with
      | (node, left) => (node, left.within hlt)
    else if c.isDigit then
      match number false (c :: rest) with
      | (node, left) =>
        (node, left.map fun after =>
          ⟨after.val, Nat.lt_of_lt_of_le after.property hlt⟩)
    else if c = '"' then
      match hread : readText rest with
      | .error f => malformed f
      | .ok (value, after) =>
        (.string (String.ofList value),
          some ⟨after, Nat.lt_trans (readText_length hread) hlt⟩)
    else if c = '[' then
      match readItems true rest with
      | (items, fault, left) => (.array items fault, left.within hlt)
    else if c = '\x7b' then
      match readMembers true rest with
      | (members, fault, left) => (.object members fault, left.within hlt)
    else malformed .expectedValue
termination_by (text.length, 0)
decreasing_by all_goals exact Prod.Lex.left _ _ hlt

/-- Reads the items of an array and its closing bracket.  All but the first have
a comma in front. -/
def readItems (first : Bool) (text : List Char) :
    List Node × Option JsonFault × Left text :=
  have hskip := skip_length text
  match hrest : skip text with
  | [] => ([], some .endOfList, none)
  | c :: rest =>
    have hlt : rest.length < text.length := by
      rw [hrest] at hskip
      exact hskip
    if c = ']' then ([], none, some ⟨rest, hlt⟩)
    else if first then readItem text (Nat.le_refl _)
    else if c = ',' then
      match skip rest with
      | [] => ([], some .endOfValue, none)
      | ']' :: _ => ([], some .trailingComma, none)
      | _ => readItem rest (Nat.le_of_lt hlt)
    else ([], some .expectedCommaOrBracket, none)
termination_by (text.length, 2)
decreasing_by
  · exact Prod.Lex.right _ (by decide)
  · exact Prod.Lex.left _ _ hlt

def readItem {text : List Char} (item : List Char)
    (hitem : item.length ≤ text.length) :
    List Node × Option JsonFault × Left text :=
  match readNode item with
  | (node, none) => ([node], none, none)
  | (node, some ⟨after, hafter⟩) =>
    match readItems false after with
    | (items, fault, left) =>
      (node :: items, fault, left.within (Nat.lt_of_lt_of_le hafter hitem))
termination_by (item.length, 1)
decreasing_by
  · exact Prod.Lex.right _ (by decide)
  · exact Prod.Lex.left _ _ hafter

/-- Reads the members of an object and its closing brace.  All but the first
have a comma in front. -/
def readMembers (first : Bool) (text : List Char) :
    List (String × Node) × Option JsonFault × Left text :=
  have hskip := skip_length text
  match hrest : skip text with
  | [] => ([], some .endOfObject, none)
  | c :: rest =>
    have hlt : rest.length < text.length := by
      rw [hrest] at hskip
      exact hskip
    if c = '\x7d' then ([], none, some ⟨rest, hlt⟩)
    else if first then
      if c = '"' then readMember rest hlt else ([], some .keyNotString, none)
    else if c = ',' then
      have hnext := skip_length rest
      match hkey : skip rest with
      | [] => ([], some .endOfValue, none)
      | d :: key =>
        have hlt' : key.length < text.length := by
          rw [hkey] at hnext
          exact Nat.lt_trans hnext hlt
        if d = '"' then readMember key hlt'
        else if d = '\x7d' then ([], some .trailingComma, none)
        else ([], some .keyNotString, none)
    else ([], some .expectedCommaOrBrace, none)
termination_by (text.length, 0)
decreasing_by
  · exact Prod.Lex.left _ _ hlt
  · exact Prod.Lex.left _ _ hlt'

def readMember {text : List Char} (quoted : List Char)
    (hquoted : quoted.length < text.length) :
    List (String × Node) × Option JsonFault × Left text :=
  match hread : readText quoted with
  | .error f => ([], some f, none)
  | .ok (name, afterName) =>
    have hname := readText_length hread
    have hskip := skip_length afterName
    match hrest : skip afterName with
    | [] => ([(String.ofList name, .malformed .endOfObject)], none, none)
    | c :: value =>
      have hvalue : value.length < quoted.length := by
        rw [hrest] at hskip
        exact Nat.lt_trans hskip hname
      if c = ':' then
        match readNode value with
        | (node, none) => ([(String.ofList name, node)], none, none)
        | (node, some ⟨after, hafter⟩) =>
          have hlt := Nat.lt_trans hafter hvalue
          match readMembers false after with
          | (members, fault, left) =>
            ((String.ofList name, node) :: members, fault,
              left.within (Nat.lt_trans hlt hquoted))
      else ([(String.ofList name, .malformed .expectedColon)], none, none)
termination_by (quoted.length, 0)
decreasing_by
  · exact Prod.Lex.left _ _ hvalue
  · exact Prod.Lex.left _ _ hlt

end

/-- Reads a whole document; only white space may follow the value. -/
def readDocument (text : String) : Document :=
  match readNode text.toList with
  | (node, none) => ⟨node, none⟩
  | (node, some ⟨rest, _⟩) =>
    ⟨node, if skip rest = [] then none else some .trailingCharacters⟩

end JsonReader

end FilterLanguage
