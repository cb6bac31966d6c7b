/-!
# Log events

What happens along the way of a command, with a level, the place in the program
that it comes from, a message and named fields.
-/

namespace FilterLanguage

inductive LogLevel where
  | off
  | error
  | warn
  | info
  | debug
  | trace
deriving DecidableEq

namespace LogLevel

/-- Greater for levels that let more through. -/
def rank : LogLevel → Nat
  | .off => 0
  | .error => 1
  | .warn => 2
  | .info => 3
  | .debug => 4
  | .trace => 5

def text : LogLevel → String
  | .off => "OFF"
  | .error => "ERROR"
  | .warn => "WARN"
  | .info => "INFO"
  | .debug => "DEBUG"
  | .trace => "TRACE"

def all : List LogLevel := [.off, .error, .warn, .info, .debug, .trace]

def readRank? (text : List Char) : Option Nat :=
  let digits :=
    match text with
    | '+' :: rest => rest
    | rest => rest
  if digits ≠ [] ∧ digits.all Char.isDigit then
    some (Nat.ofDigitChars 10 digits 0)
  else none

def ofText? (text : List Char) : Option LogLevel :=
  match readRank? text with
  | some n => all.find? fun level => level.rank == n
  | none =>
    let name := text.map Char.toUpper
    all.find? fun level => level.text.toList == name

end LogLevel

inductive LogOrigin where
  | loading
  | parsing
  | declaring
  | narrowing
  | resolving
deriving DecidableEq

/-- The path of a place: the program or its library, and the parts of it. -/
def LogOrigin.path : LogOrigin → String
  | .loading => "qfilter::commands::input"
  | .parsing => "qfilter_lib::parser"
  | .declaring => "qfilter_lib::schema::registry"
  | .narrowing => "qfilter_lib::schema::narrow"
  | .resolving => "qfilter_lib::resolve"

structure LogEvent where
  level : LogLevel
  origin : LogOrigin
  message : String
  fields : List (String × String)
deriving DecidableEq

namespace LogEvent

def text (e : LogEvent) : String :=
  " ".intercalate
    ([e.level.text, e.message] ++
      e.fields.map fun field => field.1 ++ "=" ++ field.2)

def fieldNames (e : LogEvent) : List String :=
  "message" :: e.fields.map Prod.fst

end LogEvent

end FilterLanguage
