import FilterLanguage.ParseError
import FilterLanguage.ParseError.Row
import FilterLanguage.ParseError.Window
import FilterLanguage.Text.Parts

/-!
# Snippets

A parse error shown with the line of the source that it is in: the message, the
place when the source has a path, the line with its number, and carets under
the span with the message again.  Columns in the place count characters, carets
count display columns.  The message on top is shown with the stand-ins of the
line and may take several lines, the one behind the carets is the message as it
is.  Dots stand for a part of the line that is cut off.
-/

namespace FilterLanguage

/-- A line of a source, where `start` is the byte offset of its first
character. -/
structure SourceLine where
  number : Nat
  start : Nat
  text : List Char
deriving DecidableEq

namespace SourceLine

/-- A line without the carriage return before its line feed. -/
def chomp (line : List Char) : List Char :=
  match line.reverse with
  | '\r' :: rest => rest.reverse
  | _ => line

/-- The lines from `number` on.  A line feed ends a line, and begins another one
only when something follows. -/
def split (number start : Nat) (source : List Char) : List SourceLine :=
  let line := source.takeWhile (· != '\n')
  match _hrest : source.dropWhile (· != '\n') with
  | [] => [⟨number, start, line⟩]
  | [_] => [⟨number, start, chomp line⟩]
  | _ :: rest =>
    ⟨number, start, chomp line⟩ ::
      split (number + 1) (start + byteLength line + 1) rest
termination_by source.length
decreasing_by
  have hle : (source.dropWhile (· != '\n')).length ≤ source.length :=
    (List.dropWhile_sublist _).length_le
  rw [_hrest] at hle
  simp only [List.length_cons] at hle
  omega

/-- The line that holds a byte offset; the last one when the offset is past the
end. -/
def holding (source : List Char) (offset : Nat) : SourceLine :=
  (split 1 0 source).foldl
    (fun found line => if line.start ≤ offset then line else found)
    ⟨1, 0, []⟩

/-- The leading characters that start within so many bytes. -/
def takeBytes : Nat → List Char → List Char
  | 0, _ => []
  | _, [] => []
  | n + 1, c :: rest => c :: takeBytes (n + 1 - c.utf8Size) rest

def before (line : SourceLine) (offset : Nat) : List Char :=
  takeBytes (offset - line.start) line.text

/-- Number of the column at a byte offset, counted from one.  An offset behind
the line's last character but one has a column of its own. -/
def column (line : SourceLine) (offset : Nat) : Nat :=
  let past := byteLength line.text < offset - line.start
  (line.before offset).length + if past then 2 else 1

def displayColumn (line : SourceLine) (offset : Nat) : Nat :=
  displayWidth (line.before offset)

end SourceLine

structure Snippet where
  source : String
  path : Option String
  colored : Bool

namespace Snippet

def terminalWidth : Nat := 140

/-- What stands for a part that is cut off. -/
def dots : List Char := ['.', '.', '.']

def spaces (n : Nat) : List Char := List.replicate n ' '

def visible (text : List Char) : List Char := text.flatMap shown

/-- The rows of the message: behind the word `error`, and below it. -/
def titleRows (message : String) : List Row :=
  match parts '\n' message.toList with
  | [] => []
  | first :: more =>
    (Row.add (Row.add [] .fault "error".toList) .title
      (": ".toList ++ visible first)) ::
    more.map fun line =>
      Row.add (Row.add [] .plain (spaces "error: ".length)) .title (visible line)

def placeRow (gutter : Nat) (path : String) (line : SourceLine) (offset : Nat) :
    Row :=
  Row.add (Row.add (Row.add [] .plain (spaces gutter)) .frame "--> ".toList)
    .plain
    (path ++ ":" ++ line.number.repr ++ ":" ++ (line.column offset).repr).toList

/-- A row with nothing but the bar behind the gutter. -/
def barRow (gutter : Nat) : Row := Row.put [] (gutter + 1) .frame ['|']

/-- Column where the line starts behind the bar. -/
def codeColumn (gutter : Nat) : Nat := gutter + 3

/-- The row of the line through a window, and the columns cut off on the left.
The dots take the place of the characters that they cover. -/
def codeRow (gutter : Nat) (line : SourceLine) (window : Window)
    (available : Nat) : Row × Nat :=
  let text := visible line.text
  let size := displayWidth text
  let left := min window.left size
  let right :=
    if size - window.left ≤ available then size else min size window.right
  let (more, rest) := dropColumns left text
  let code := takeColumns (right - left) rest
  let covered := if 0 < window.left then coverColumns dots.length code else []
  let column := codeColumn gutter + displayWidth covered
  let numbered := (barRow gutter).put 0 .frame line.number.repr.toList
  let started :=
    if 0 < window.left then numbered.put (codeColumn gutter) .frame dots
    else numbered
  let filled := started.put column .plain (code.drop covered.length)
  let last := (coverColumns dots.length code.reverse).length
  let row :=
    if right < size then
      filled.put (column + (code.length - covered.length) - last) .frame dots
    else filled
  (row, left + more)

/-- The row of the carets from column `start` up to `stop` of the line, of which
`left` columns are cut off, with a message behind them. -/
def caretRow (gutter start stop left : Nat) (message : String) : Row :=
  let column := codeColumn gutter
  let labeled := (barRow gutter).put (column + (stop + 1 - left)) .fault
    message.toList
  (List.range' start (stop - start)).foldl
    (fun row p => row.put (column + p - left) .fault ['^']) labeled

/-- The lines of an error, joined and without a line feed at the end. -/
def render (snippet : Snippet) (e : ParseError) : String :=
  let source := snippet.source.toList
  let span := e.span.underlined (byteLength source)
  let line := SourceLine.holding source span.start
  let gutter := line.number.repr.length
  let start := line.displayColumn span.start
  let stop := max (start + 1) (line.displayColumn span.stop)
  let available := terminalWidth - codeColumn gutter
  let window := Window.choose
    { indent := indentOf line.text
      start
      stop
      labelStop := stop + (displayWidth e.message.toList + 1)
      size := displayWidth line.text
      available }
  let (code, left) := codeRow gutter line window available
  let place :=
    match snippet.path with
    | some path => [placeRow gutter path line span.start]
    | none => []
  let rows := titleRows e.message ++ place ++
    [barRow gutter, code, caretRow gutter start stop left e.message]
  "\n".intercalate (rows.map (Row.text snippet.colored))

end Snippet

end FilterLanguage
