/-!
# Command line arguments

Three commands take options and perhaps a file.  An option is written `--name`
or, if it has one, as a letter behind a single dash; letters may be run
together.  A value stands behind `=`, right behind the letter, or in the next
argument, where it may not look like an option.  Behind `--` everything is a
file.
-/

namespace FilterLanguage

inductive CommandName where
  | parse
  | check
  | narrow
deriving DecidableEq

inductive Parameter where
  | query
  | dump
  | compact
  | color
  | verbose
  | schema
  | left
  | operator
  | right
  | unary
  | strict
deriving DecidableEq

/-- How an option is given. -/
inductive Arity where
  /-- Once, without a value. -/
  | flag
  /-- Any number of times, without a value. -/
  | counted
  /-- Once, with a value. -/
  | valued
deriving DecidableEq

namespace Parameter

def long? : Parameter → Option String
  | .query => some "query"
  | .dump => some "dump"
  | .compact => some "compact"
  | .color => some "color"
  | .verbose => none
  | .schema => some "schema"
  | .left => some "left"
  | .operator => some "operator"
  | .right => some "right"
  | .unary => some "unary"
  | .strict => some "strict"

def short? : Parameter → Option Char
  | .query => some 'q'
  | .verbose => some 'v'
  | _ => none

def arity : Parameter → Arity
  | .dump | .compact | .unary | .strict => .flag
  | .verbose => .counted
  | .query | .color | .schema | .left | .operator | .right => .valued

end Parameter

namespace CommandName

def ofText? : String → Option CommandName
  | "parse" => some .parse
  | "check" => some .check
  | "narrow" => some .narrow
  | _ => none

def parameters : CommandName → List Parameter
  | .parse => [.query, .dump, .compact, .color, .verbose]
  | .check => [.schema, .query, .color, .verbose]
  | .narrow =>
    [.schema, .left, .operator, .right, .unary, .strict, .verbose]

/-- Most files that the command takes. -/
def fileCount : CommandName → Nat
  | .parse | .check => 1
  | .narrow => 0

/-- Options of which one may be given, but not both. -/
def exclusive : CommandName → List (Parameter × Parameter)
  | .parse => [(.dump, .compact)]
  | .check => []
  | .narrow => [(.right, .unary)]

def required : CommandName → List Parameter
  | .parse => []
  | .check | .narrow => [.schema]

end CommandName

inductive Given where
  | option (p : Parameter) (value : String)
  | file (path : String)
deriving DecidableEq

namespace Given

def looksLikeOption (argument : String) : Bool :=
  match argument.toList with
  | '-' :: _ :: _ => true
  | _ => false

/-- What one argument gives, and the option that still waits for a value. -/
abbrev Step := List Given × Option Parameter

def ofLong (c : CommandName) (text : List Char) : Option Step :=
  let name := String.ofList (text.takeWhile (· != '='))
  let value := text.dropWhile (· != '=')
  match c.parameters.find? fun p => p.long? == some name with
  | none => none
  | some p =>
    match p.arity, value with
    | .valued, _ :: value => some ([.option p (String.ofList value)], none)
    | .valued, [] => some ([], some p)
    | _, [] => some ([.option p ""], none)
    | _, _ :: _ => none

/-- The value that stands right behind a letter. -/
def attached (text : List Char) : String :=
  match text with
  | '=' :: value => String.ofList value
  | value => String.ofList value

def ofLetters (c : CommandName) : List Char → Option Step
  | [] => some ([], none)
  | letter :: rest =>
    match c.parameters.find? fun p => p.short? == some letter with
    | none => none
    | some p =>
      match p.arity, rest with
      | .valued, [] => some ([], some p)
      | .valued, value => some ([.option p (attached value)], none)
      | _, _ =>
        (ofLetters c rest).map fun step => (.option p "" :: step.1, step.2)

def ofArgument (c : CommandName) (argument : String) : Option Step :=
  match argument.toList with
  | '-' :: '-' :: name => ofLong c name
  | '-' :: letter :: letters => ofLetters c (letter :: letters)
  | _ => some ([.file argument], none)

/-- Reads all arguments of a command; `waiting` is the option that the next one
is the value of. -/
def ofArguments (c : CommandName) :
    Option Parameter → List String → Option (List Given)
  | some _, [] => none
  | none, [] => some []
  | some p, argument :: rest =>
    if looksLikeOption argument then none
    else (ofArguments c none rest).map (.option p argument :: ·)
  | none, argument :: rest =>
    if argument = "--" then some (rest.map .file)
    else
      match ofArgument c argument with
      | none => none
      | some (given, waiting) =>
        (ofArguments c waiting rest).map (given ++ ·)

def values (p : Parameter) (given : List Given) : List String :=
  given.filterMap fun
    | .option q value => if p = q then some value else none
    | .file _ => none

def files (given : List Given) : List String :=
  given.filterMap fun
    | .file path => some path
    | .option _ _ => none

def value? (p : Parameter) (given : List Given) : Option String :=
  (values p given).head?

def has (p : Parameter) (given : List Given) : Bool := !(values p given).isEmpty

/-- The arguments are allowed together: nothing is given too often or
missing, nothing excludes another, and values are of their kinds. -/
def isValid (c : CommandName) (given : List Given) : Bool :=
  let paths := files given ++ values .schema given
  (c.parameters.all fun p =>
    p.arity == .counted || (values p given).length ≤ 1) &&
  (files given).length ≤ c.fileCount &&
  (c.required.all fun p => has p given) &&
  !(c.exclusive.any fun pair => has pair.1 given && has pair.2 given) &&
  !(has .query given && !(files given).isEmpty) &&
  !(paths.contains "") &&
  ((values .color given).all fun value =>
    ["auto", "always", "never"].contains value)

end Given

inductive ColorChoice where
  | auto
  | always
  | never
deriving DecidableEq

inductive FilterSource where
  | inline (text : String)
  | file (path : String)
  | stdin
  | missing
deriving DecidableEq

inductive TreeFormat where
  | pretty
  | compact
  | outline
deriving DecidableEq

structure NarrowOptions where
  schema : String
  left : Option String
  operator : Option String
  right : Option String
  unary : Bool
  strict : Bool
deriving DecidableEq

inductive Command where
  | parse (source : FilterSource) (format : TreeFormat) (color : ColorChoice)
  | check (schema : String) (source : FilterSource) (color : ColorChoice)
  | narrow (options : NarrowOptions)
deriving DecidableEq

/-- A command, and how often more log was asked for. -/
structure Invocation where
  command : Command
  verbosity : Nat
deriving DecidableEq

namespace Invocation

def colorOf (given : List Given) : ColorChoice :=
  match Given.value? .color given with
  | some "always" => .always
  | some "never" => .never
  | _ => .auto

def sourceOf (given : List Given) : FilterSource :=
  match Given.value? .query given, Given.files given with
  | some text, _ => .inline text
  | none, "-" :: _ => .stdin
  | none, path :: _ => .file path
  | none, [] => .missing

def formatOf (given : List Given) : TreeFormat :=
  if Given.has .dump given then .outline
  else if Given.has .compact given then .compact
  else .pretty

def commandOf (name : CommandName) (given : List Given) : Command :=
  let schema := (Given.value? .schema given).getD ""
  match name with
  | .parse => .parse (sourceOf given) (formatOf given) (colorOf given)
  | .check => .check schema (sourceOf given) (colorOf given)
  | .narrow =>
    .narrow
      { schema
        left := Given.value? .left given
        operator := Given.value? .operator given
        right := Given.value? .right given
        unary := Given.has .unary given
        strict := Given.has .strict given }

/-- Reads a command line; there is none when it is not used as it should. -/
def ofArguments? : List String → Option Invocation
  | [] => none
  | first :: rest =>
    match CommandName.ofText? first with
    | none => none
    | some name =>
      match Given.ofArguments name none rest with
      | none => none
      | some given =>
        if Given.isValid name given then
          some ⟨commandOf name given, (Given.values .verbose given).length⟩
        else none

end Invocation

end FilterLanguage
