import FilterLanguage.Json.Reader
import FilterLanguage.Number.Text
import FilterLanguage.Schema.Config
import FilterLanguage.Text.Escaped

/-!
# Reading schema configurations

A configuration is a JSON object with the fields `types`, `references` and
`operators`; a reference is an object with `name`, `type` and perhaps `array`.
Both may also be arrays of their fields in that order.  Whatever may be left
out is empty or false.  A document is interpreted in the order of its text, and
the first fault is the one reported.
-/

namespace FilterLanguage

inductive Expected where
  | config
  | reference
  | sequence
  | string
  | boolean
deriving DecidableEq

def Expected.text : Expected → String
  | .config => "struct SchemaConfig"
  | .reference => "struct ReferenceConfig"
  | .sequence => "a sequence"
  | .string => "a string"
  | .boolean => "a boolean"

/-- Why a text is no configuration. -/
inductive ConfigFault where
  | malformed (fault : JsonFault)
  | wrongType (found : String) (expected : Expected)
  | missingField (name : String)
  | duplicateField (name : String)
  | unknownField (name : String) (known : List String)
  | tooShort (length : Nat)
  | invalid (e : Error)
deriving DecidableEq

def fieldText (name : String) : String := "`" ++ name ++ "`"

def ConfigFault.message : ConfigFault → String
  | .malformed fault => fault.message
  | .wrongType found expected =>
    "invalid type: " ++ found ++ ", expected " ++ expected.text
  | .missingField name => "missing field " ++ fieldText name
  | .duplicateField name => "duplicate field " ++ fieldText name
  | .unknownField name known =>
    "unknown field " ++ fieldText name ++ ", expected one of " ++
      ", ".intercalate (known.map fieldText)
  | .tooShort length =>
    "invalid length " ++ length.repr ++
      ", expected struct ReferenceConfig with 3 elements"
  | .invalid e => e.message

def Node.describe : Node → String
  | .null => "null"
  | .boolean true => "boolean `true`"
  | .boolean false => "boolean `false`"
  | .integer value => "integer `" ++ (if value < 0 then "-" else "") ++
      value.natAbs.repr ++ "`"
  | .floating value => "floating point `" ++ value.json ++ "`"
  | .string value => "string " ++ escaped value
  | .array _ _ => "sequence"
  | .object _ _ => "map"
  | .malformed fault => fault.message

namespace ConfigReader

abbrev Result := Except ConfigFault

/-- The fault of a value that is not what was expected. -/
def mismatch {α : Type} (expected : Expected) : Node → Result α
  | .malformed fault => .error (.malformed fault)
  | node => .error (.wrongType node.describe expected)

/-- The fault that the end of an array or object may be. -/
def ended : Option JsonFault → Result Unit
  | some fault => .error (.malformed fault)
  | none => .ok ()

def string : Node → Result String
  | .string value => .ok value
  | node => mismatch .string node

def boolean : Node → Result Bool
  | .boolean value => .ok value
  | node => mismatch .boolean node

def signature (node : Node) : Result Signature := do
  let text ← string node
  match Signature.parse text with
  | .ok signature => .ok signature
  | .error e => .error (.invalid e)

def list {α : Type} (item : Node → Result α) : Node → Result (List α)
  | .array items fault => do
    let values ← items.mapM item
    ended fault
    pure values
  | node => mismatch .sequence node

/-- An item of an array that stands for a record, if it is there. -/
def element {α : Type} (items : List Node) (fault : Option JsonFault)
    (i : Nat) (read : Node → Result α) : Result (Option α) :=
  match items[i]? with
  | some node => some <$> read node
  | none => do
    ended fault
    pure none

/-- No item follows the first `n`. -/
def atMost (items : List Node) (fault : Option JsonFault) (n : Nat) :
    Result Unit :=
  if n < items.length then .error (.malformed .trailingCharacters)
  else ended fault

/-- A field that has not been read before. -/
def once {α : Type} (name : String) (before : Option α) (read : Result α) :
    Result (Option α) :=
  match before with
  | some _ => .error (.duplicateField name)
  | none => some <$> read

/-- The fields of a reference as far as they were read. -/
structure ReferenceFields where
  name : Option String
  type : Option String
  array : Option Bool

def ReferenceFields.read (fields : ReferenceFields) (member : String × Node) :
    Result ReferenceFields := do
  let (key, node) := member
  if key = "name" then
    let name ← once key fields.name (string node)
    pure { fields with name }
  else if key = "type" then
    let type ← once key fields.type (string node)
    pure { fields with type }
  else if key = "array" then
    let array ← once key fields.array (boolean node)
    pure { fields with array }
  else .error (.unknownField key ["name", "type", "array"])

def required {α : Type} (fault : ConfigFault) : Option α → Result α
  | some value => .ok value
  | none => .error fault

def reference : Node → Result Reference
  | .object members fault => do
    let fields ← members.foldlM ReferenceFields.read ⟨none, none, none⟩
    ended fault
    let name ← required (.missingField "name") fields.name
    let type ← required (.missingField "type") fields.type
    pure ⟨name, type, fields.array.getD false⟩
  | .array items fault => do
    let name ← element items fault 0 string
    let name ← required (.tooShort 0) name
    let type ← element items fault 1 string
    let type ← required (.tooShort 1) type
    let array ← element items fault 2 boolean
    atMost items fault 3
    pure ⟨name, type, array.getD false⟩
  | node => mismatch .reference node

/-- The fields of a configuration as far as they were read. -/
structure ConfigFields where
  types : Option (List String)
  references : Option (List Reference)
  operators : Option (List Signature)

def ConfigFields.read (fields : ConfigFields) (member : String × Node) :
    Result ConfigFields := do
  let (key, node) := member
  if key = "types" then
    let types ← once key fields.types (list string node)
    pure { fields with types }
  else if key = "references" then
    let references ← once key fields.references (list reference node)
    pure { fields with references }
  else if key = "operators" then
    let operators ← once key fields.operators (list signature node)
    pure { fields with operators }
  else .error (.unknownField key ["types", "references", "operators"])

def ConfigFields.config (fields : ConfigFields) : Config :=
  ⟨fields.types.getD [], fields.references.getD [], fields.operators.getD []⟩

def config : Node → Result Config
  | .object members fault => do
    let fields ← members.foldlM ConfigFields.read ⟨none, none, none⟩
    ended fault
    pure fields.config
  | .array items fault => do
    let types ← element items fault 0 (list string)
    let references ← element items fault 1 (list reference)
    let operators ← element items fault 2 (list signature)
    atMost items fault 3
    pure (ConfigFields.config ⟨types, references, operators⟩)
  | node => mismatch .config node

end ConfigReader

def Config.read (text : String) : Except ConfigFault Config := do
  let document := JsonReader.readDocument text
  let config ← ConfigReader.config document.root
  ConfigReader.ended document.fault
  pure config

end FilterLanguage
