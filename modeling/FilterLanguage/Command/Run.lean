import FilterLanguage.Command.Arguments
import FilterLanguage.Command.Journal
import FilterLanguage.Command.LogFilter
import FilterLanguage.Group.Json
import FilterLanguage.Group.Outline
import FilterLanguage.Group.Parser
import FilterLanguage.ParseError.Snippet
import FilterLanguage.Schema.ConfigReader

/-!
# Commands

What a command prints and the status it ends with, as a function of its
arguments and of what it reads.  Nothing is printed to standard output when a
command fails; errors and log go to standard error in the order in which things
happen.
-/

namespace FilterLanguage

inductive ReadFault where
  | notFound
  | isDirectory
  | notText
  | other (message : String)
deriving DecidableEq

def ReadFault.message : ReadFault → String
  | .notFound => "No such file or directory (os error 2)"
  | .isDirectory => "Is a directory (os error 21)"
  | .notText => "stream did not contain valid UTF-8"
  | .other message => message

/-- What a command may look at. -/
structure Surroundings where
  file : String → Except ReadFault String
  stdin : Except ReadFault String
  setting : String → Option String
  /-- Standard error is a terminal. -/
  terminal : Bool

structure Outcome where
  code : Nat
  stdout : String
  stderr : String
deriving DecidableEq

inductive Failure where
  | missingFilter
  | stdin (fault : ReadFault)
  | file (path : String) (fault : ReadFault)
  | schema (path : String) (message : String)
  | library (e : Error)
deriving DecidableEq

def Failure.message : Failure → String
  | .missingFilter =>
    "filter is required: use a positional argument or -q/--query"
  | .stdin fault => "failed to read stdin: " ++ fault.message
  | .file path fault =>
    "failed to read '" ++ path ++ "': " ++ fault.message
  | .schema path message => "invalid schema '" ++ path ++ "': " ++ message
  | .library e => e.message

/-- The text of a filter, and the name of where it comes from if that is not the
command line. -/
structure FilterText where
  name : Option String
  text : String
deriving DecidableEq

namespace Command

/-- The result of a part of a command, and what it logged. -/
abbrev Logged (α : Type) := Except Failure α × List LogEvent

/-- The text without line feeds and carriage returns at its end. -/
def trimLineEnds (text : String) : String :=
  String.ofList
    (text.toList.reverse.dropWhile fun c => c == '\n' || c == '\r').reverse

def loadFilter (s : Surroundings) : FilterSource → Except Failure FilterText
  | .inline text => .ok ⟨none, text⟩
  | .missing => .error .missingFilter
  | .stdin =>
    match s.stdin with
    | .ok text => .ok ⟨some "<stdin>", trimLineEnds text⟩
    | .error fault => .error (.stdin fault)
  | .file path =>
    match s.file path with
    | .ok text => .ok ⟨some path, trimLineEnds text⟩
    | .error fault => .error (.file path fault)

def loadSchema (s : Surroundings) (path : String) : Logged (Registry Unit) :=
  match s.file path with
  | .error fault => (.error (.file path fault), [])
  | .ok text =>
    match Config.read text with
    | .error fault => (.error (.schema path fault.message), [])
    | .ok config =>
      let events := Journal.making config
      match config.toRegistry with
      | .error e => (.error (.schema path e.message), events)
      | .ok r => (.ok r, events ++ [Journal.loaded path r])

def queryOf (options : NarrowOptions) : Except Error Query := do
  let left ← options.left.mapM TypeToken.parse
  let right ← options.right.mapM TypeToken.parse
  let right :=
    match right with
    | some token => .is token
    | none => if options.unary then .unary else .unconstrained
  pure ⟨left, options.operator, right⟩

def isColored (s : Surroundings) : ColorChoice → Bool
  | .always => true
  | .never => false
  | .auto => s.terminal

def lines (texts : List String) : String :=
  String.join (texts.map (· ++ "\n"))

/-- The end of a command that logged `events` and printed `stdout`. -/
def finished (filter : LogFilter) (events : List LogEvent) (stdout : String) :
    Outcome :=
  ⟨0, stdout, lines (filter.log events)⟩

/-- The end of a command with a message on standard error. -/
def stopped (filter : LogFilter) (events : List LogEvent) (message : String) :
    Outcome :=
  ⟨1, "", lines (filter.log events ++ [message])⟩

def failed (filter : LogFilter) (events : List LogEvent) (f : Failure) :
    Outcome :=
  stopped filter events ("error: " ++ f.message)

/-- An error of the filter itself; parse errors are shown in the filter. -/
def failedIn (s : Surroundings) (filter : LogFilter) (events : List LogEvent)
    (source : FilterText) (color : ColorChoice) : Error → Outcome
  | .parse e =>
    let snippet : Snippet := ⟨source.text, source.name, isColored s color⟩
    stopped filter events (snippet.render e)
  | e => failed filter events (.library e)

def treeText (g : Group Statement) : TreeFormat → String
  | .outline => g.outline
  | .compact => (g.toJson Statement.toJson).compact
  | .pretty => (g.toJson Statement.toJson).pretty

def runParse (s : Surroundings) (filter : LogFilter) (source : FilterSource)
    (format : TreeFormat) (color : ColorChoice) : Outcome :=
  match loadFilter s source with
  | .error f => failed filter [] f
  | .ok source =>
    match Group.parse source.text with
    | .error e => failedIn s filter [] source color e
    | .ok g => finished filter [Journal.parsed g] (lines [treeText g format])

def checkedLine (s : ResolvedStatement) : String :=
  s.text ++ "  =>  " ++ s.signature.text

def runCheck (s : Surroundings) (filter : LogFilter) (schema : String)
    (source : FilterSource) (color : ColorChoice) : Outcome :=
  match loadSchema s schema with
  | (.error f, events) => failed filter events f
  | (.ok r, events) =>
    match loadFilter s source with
    | .error f => failed filter events f
    | .ok source =>
      match Group.parse source.text with
      | .error e => failedIn s filter events source color e
      | .ok g =>
        let events := events ++ [Journal.parsed g] ++
          Journal.resolving r g.statements
        match r.resolve g with
        | .error e => failedIn s filter events source color e
        | .ok resolved =>
          finished filter events (lines (resolved.statements.map checkedLine))

def runNarrow (s : Surroundings) (filter : LogFilter)
    (options : NarrowOptions) : Outcome :=
  match loadSchema s options.schema with
  | (.error f, events) => failed filter events f
  | (.ok r, events) =>
    match queryOf options with
    | .error e => failed filter events (.library e)
    | .ok query =>
      let events := events ++ Journal.narrowing r query options.strict
      let narrowed :=
        if options.strict then r.narrowStrict query else .ok (r.narrow query)
      match narrowed with
      | .error e => failed filter events (.library e)
      | .ok view =>
        finished filter events (lines (view.signatures.map Signature.text))

/-- The log filter: from the environment if it is set there, else from the
options. -/
def logFilter (s : Surroundings) (verbosity : Nat) : LogFilter :=
  match s.setting "QFILTER_LOG", s.setting "RUST_LOG" with
  | some text, _ => .ofText text
  | none, some text => .ofText text
  | none, none => .ofVerbosity verbosity

def run (s : Surroundings) (invocation : Invocation) : Outcome :=
  let filter := logFilter s invocation.verbosity
  match invocation.command with
  | .parse source format color => runParse s filter source format color
  | .check schema source color => runCheck s filter schema source color
  | .narrow options => runNarrow s filter options

def usage : String :=
  lines
    ["usage: parse [FILE | -q TEXT] [--dump | --compact]",
      "       check --schema FILE [FILE | -q TEXT]",
      "       narrow --schema FILE [--left TYPE] [--operator OP]",
      "              [--right TYPE | --unary] [--strict]"]

/-- Runs a command line; one that is not used as it should ends with 2. -/
def runArguments (s : Surroundings) (arguments : List String) : Outcome :=
  match Invocation.ofArguments? arguments with
  | some invocation => run s invocation
  | none => ⟨2, "", usage⟩

end Command

end FilterLanguage
