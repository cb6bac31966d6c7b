import FilterLanguage.Number.Text

/-!
# JSON values and their texts

The fields of an object keep their order.  The compact text has no white space;
the indented text has one element or field a line, two spaces for each level,
and empty arrays and objects on one line.
-/

namespace FilterLanguage

inductive Json where
  | null
  | boolean (value : Bool)
  | number (value : Number)
  | natural (value : Nat)
  | string (value : String)
  | array (items : List Json)
  | object (fields : List (String × Json))

namespace Json

def controlDigits (c : Char) : List Char :=
  [Nat.digitChar (c.toNat / 16), Nat.digitChar (c.toNat % 16)]

def escapeChar (c : Char) : List Char :=
  if c = '"' then ['\\', '"']
  else if c = '\\' then ['\\', '\\']
  else if c = '\n' then ['\\', 'n']
  else if c = '\r' then ['\\', 'r']
  else if c = '\t' then ['\\', 't']
  else if c.toNat = 8 then ['\\', 'b']
  else if c.toNat = 12 then ['\\', 'f']
  else if c.toNat < 32 then '\\' :: 'u' :: '0' :: '0' :: controlDigits c
  else [c]

/-- A text in double quotes; quotes, backslashes and control characters are
escaped, everything else stands for itself. -/
def quote (text : String) : String :=
  String.ofList ('"' :: (text.toList.flatMap escapeChar ++ ['"']))

def scalar : Json → String
  | .null => "null"
  | .boolean true => "true"
  | .boolean false => "false"
  | .number value => value.json
  | .natural value => value.repr
  | .string value => quote value
  | .array _ => "[]"
  | .object _ => "\x7b\x7d"

mutual

def compact : Json → String
  | .array items => "[" ++ ",".intercalate (compactItems items) ++ "]"
  | .object fields => "\x7b" ++ ",".intercalate (compactFields fields) ++ "\x7d"
  | value => value.scalar

def compactItems : List Json → List String
  | [] => []
  | item :: rest => item.compact :: compactItems rest

def compactFields : List (String × Json) → List String
  | [] => []
  | (name, value) :: rest =>
    (quote name ++ ":" ++ value.compact) :: compactFields rest

end

def lineBreak (level : Nat) : String :=
  String.ofList ('\n' :: List.replicate (2 * level) ' ')

/-- Parts on lines of their own, one level inside brackets. -/
def bracketed (level : Nat) (opening closing : String) (parts : List String) :
    String :=
  let separator := "," ++ lineBreak (level + 1)
  opening ++ lineBreak (level + 1) ++ separator.intercalate parts ++
    lineBreak level ++ closing

mutual

def indented (level : Nat) : Json → String
  | .array (item :: rest) =>
    bracketed level "[" "]" (indentedItems (level + 1) (item :: rest))
  | .object (field :: rest) =>
    bracketed level "\x7b" "\x7d" (indentedFields (level + 1) (field :: rest))
  | value => value.scalar

def indentedItems (level : Nat) : List Json → List String
  | [] => []
  | item :: rest => item.indented level :: indentedItems level rest

def indentedFields (level : Nat) : List (String × Json) → List String
  | [] => []
  | (name, value) :: rest =>
    (quote name ++ ": " ++ value.indented level) :: indentedFields level rest

end

/-- The indented text from the left margin. -/
def pretty (value : Json) : String := value.indented 0

end Json

end FilterLanguage
