import FilterLanguage.Schema.View
import FilterLanguage.Text.Escaped

/-!
# Inspecting registries

One-line descriptions of overloads, registries and views, in which every text
is escaped.
-/

namespace FilterLanguage

def listed (opening closing : String) (parts : List String) : String :=
  opening ++ ", ".intercalate parts ++ closing

/-- A record: its name, and its fields between braces. -/
def record (name : String) (fields : List (String × String)) : String :=
  listed (name ++ " \x7b ") " \x7d"
    (fields.map fun field => field.1 ++ ": " ++ field.2)

def inspectBool (b : Bool) : String := if b then "true" else "false"

def Reference.inspect (r : Reference) : String :=
  record "Reference"
    [("name", escaped r.name), ("ty", escaped r.type),
      ("array", inspectBool r.array)]

def Overload.inspect {σ : Type} (o : Overload σ) : String :=
  record "Operator"
    [("signature", escaped o.signature.text),
      ("transform", inspectBool o.transform.isSome)]

def Registry.inspect {σ : Type} (r : Registry σ) : String :=
  let references := r.references.map fun reference =>
    escaped reference.name ++ ": " ++ reference.inspect
  "Registry \x7b types: " ++ listed "\x7b" "\x7d" (r.types.map escaped) ++
    ", references: " ++ listed "\x7b" "\x7d" references ++
    ", operators: " ++ listed "[" "]" (r.overloads.map Overload.inspect) ++
    ", .. \x7d"

def View.inspect {σ : Type} (v : View σ) : String :=
  listed "[" "]" (v.signatures.map fun s => escaped s.text)

end FilterLanguage
