import FilterLanguage.Command.LogEvent
import FilterLanguage.Text.Alphanumeric
import FilterLanguage.Text.Blank
import FilterLanguage.Text.Parts

/-!
# Log filters

A filter is a list of directives between commas.  A directive is a level, the
beginning of a path that events come from, or both with `=` between them; without
a level it lets everything through.  The name of a span in square brackets may
stand behind the path, with a field in braces behind the name.  A field without a
span asks for events that have it.  Spans and values of fields select nothing,
since no event happens in a span.

For each event the most specific directive counts.  Directives that cannot be
read are left out with a complaint.
-/

namespace FilterLanguage

/-- Lets events through up to a level, if they come from a place whose path
begins with `target` and have the field. -/
structure LogDirective where
  target : List Char
  field : Option (List Char)
  level : LogLevel
deriving DecidableEq

/-- Why a directive cannot be read. -/
inductive DirectiveFault where
  | malformed
  | badLevel
deriving DecidableEq

def DirectiveFault.message : DirectiveFault → String
  | .malformed => "invalid filter directive"
  | .badLevel =>
    "error parsing level filter: expected one of " ++
      ", ".intercalate
        (["off", "error", "warn", "info", "debug", "trace"].map fun name =>
          "\"" ++ name ++ "\"") ++
      ", or a number 0-5"

namespace LogDirective

/-- What reading gives: a directive, nothing if it selects nothing, or a
fault. -/
abbrev Reading := Except DirectiveFault (Option LogDirective)

def readLevel (text : List Char) : Except DirectiveFault LogLevel :=
  if text = [] then .ok .trace
  else
    match LogLevel.ofText? text with
    | some level => .ok level
    | none => .error .badLevel

def ofWord (word : List Char) : LogDirective :=
  match LogLevel.ofText? word with
  | some level => ⟨[], none, level⟩
  | none => ⟨word, none, .trace⟩

/-- The characters of a text at the places from `start` up to `stop`. -/
def slice (text : List Char) (start stop : Nat) : List Char :=
  (text.drop start).take (stop - start)

/-- Reads what follows a bracket that closes; `rest` starts at place `here`. -/
def behindBrackets (text : List Char) (here : Nat) (rest : List Char)
    (directive : LogLevel → Option LogDirective) : Reading :=
  match rest with
  | [] => .ok (directive .trace)
  | '=' :: _ => (readLevel (text.drop (here + 1))).map directive
  | _ => .error .malformed

/-- Reads from behind an opening bracket on. -/
def inBrackets (text target : List Char) (here : Nat) (rest : List Char) :
    Reading :=
  let span := rest.takeWhile fun c => c != ']' && c != '\x7b'
  let spanStop := here + span.length
  match rest.drop span.length with
  | ']' :: behind => behindBrackets text (spanStop + 1) behind fun _ => none
  | '\x7b' :: inner =>
    let written := inner.takeWhile (· != '\x7d')
    let stop := spanStop + 1 + written.length
    let field := slice text (spanStop + 1) stop
    match inner.drop written.length with
    | '\x7d' :: ']' :: behind =>
      if field = [] then .error .malformed
      else
        behindBrackets text (stop + 2) behind fun level =>
          if slice text here spanStop = [] ∧ !field.contains '=' then
            some ⟨target, some field, level⟩
          else none
    | _ => .error .malformed
  | _ => .error .malformed

def isStart (c : Char) : Bool :=
  isAlphanumeric c || c == '-' || c == ':' || c == '_'

/-- Reads a directive.  White space around it does not count for where its parts
begin and end, but the parts are taken from the text with the white space. -/
def read (text : List Char) : Reading :=
  match trimEnd (text.dropWhile isBlank) with
  | [] => .error .malformed
  | first :: more =>
    if first = '[' then inBrackets text [] 1 more
    else if isStart first then
      let word := (first :: more).takeWhile fun c => c != '=' && c != '['
      let target := text.take word.length
      match (first :: more).drop word.length with
      | [] => .ok (some (ofWord text))
      | '=' :: _ =>
        (readLevel (text.drop (word.length + 1))).map fun level =>
          some ⟨target, none, level⟩
      | _ :: rest => inBrackets text target (word.length + 1) rest
    else .error .malformed

def covers (d : LogDirective) (e : LogEvent) : Bool :=
  d.target.isPrefixOf e.origin.path.toList &&
    match d.field with
    | none => true
    | some name => e.fieldNames.contains (String.ofList name)

/-- The first name is not behind the second in the order of characters. -/
def nameLe (a b : List Char) : Bool :=
  !(b.lex a fun c d => c.toNat < d.toNat)

/-- The second of two directives for an event counts: its target is longer, or
as long and it asks for a field, or for one whose name is not before the other's.
-/
def yields (a b : LogDirective) : Bool :=
  a.target.length < b.target.length ||
    (a.target.length == b.target.length &&
      match a.field, b.field with
      | none, _ => true
      | some _, none => false
      | some x, some y => nameLe x y)

end LogDirective

structure LogFilter where
  directives : List LogDirective
  complaints : List String

namespace LogFilter

def complaint (text : List Char) (fault : DirectiveFault) : String :=
  "ignoring `" ++ String.ofList text ++ "`: " ++ fault.message

/-- Reads directives between commas; empty ones do not count. -/
def ofText (text : String) : LogFilter :=
  let written := (parts ',' text.toList).filter (· ≠ [])
  { directives := written.filterMap fun part =>
      match LogDirective.read part with
      | .ok directive => directive
      | .error _ => none
    complaints := written.filterMap fun part =>
      match LogDirective.read part with
      | .ok _ => none
      | .error fault => some (complaint part fault) }

/-- Lets events of the program and of its library through up to a level. -/
def upTo (level : LogLevel) : LogFilter :=
  ⟨["qfilter", "qfilter_lib"].map fun name => ⟨name.toList, none, level⟩, []⟩

/-- The filter for a count of requests for more. -/
def ofVerbosity : Nat → LogFilter
  | 0 => ⟨[⟨[], none, .warn⟩], []⟩
  | 1 => upTo .debug
  | _ => upTo .trace

/-- The directive that counts for an event, the last of equals. -/
def closest? (f : LogFilter) (e : LogEvent) : Option LogDirective :=
  (f.directives.filter (·.covers e)).foldl
    (fun best d =>
      match best with
      | some b => if b.yields d then some d else some b
      | none => some d)
    none

def passes (f : LogFilter) (e : LogEvent) : Bool :=
  match f.closest? e with
  | some d => e.level.rank ≤ d.level.rank
  | none => false

/-- The lines of the log: complaints, and the events that pass. -/
def log (f : LogFilter) (events : List LogEvent) : List String :=
  f.complaints ++ (events.filter f.passes).map LogEvent.text

end LogFilter

end FilterLanguage
