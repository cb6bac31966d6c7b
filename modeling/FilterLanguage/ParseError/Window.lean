import FilterLanguage.Text.Blank
import FilterLanguage.Text.Width

/-!
# Windows on long lines

A line that starts with much blank space, or that does not fit, is not shown
whole but through a window, a range of its display columns.  The window is chosen
so that what is underlined stays in sight, together with its message if there is
room.
-/

namespace FilterLanguage

/-- What a window is chosen by: the blank columns that a line starts with, the
columns of the part to underline, the column where the message behind it ends,
the columns of the line, and how many of them can be shown. -/
structure Layout where
  indent : Nat
  start : Nat
  stop : Nat
  labelStop : Nat
  size : Nat
  available : Nat

structure Window where
  left : Nat
  right : Nat
deriving DecidableEq

namespace Window

def margin : Nat := 6

/-- The most blank columns that are kept. -/
def deepIndent : Nat := 20

/-- Blank columns that are cut off when there are too many. -/
def indentCut (indent : Nat) : Nat :=
  if deepIndent < indent then indent - (deepIndent - 4) else 0

/-- A window of `available` columns with its left end `padding` before `left`. -/
def opened (left padding available : Nat) : Window :=
  ⟨left - padding, left - padding + available⟩

/-- Cuts blank space only if that is enough; otherwise as much in front of the
underlined part as lets the message be seen, or that part alone. -/
def choose (l : Layout) : Window :=
  let indent := min l.indent l.start - margin
  let start := l.start - margin
  let stop := l.stop + margin
  let labelStop := l.labelStop + margin
  let left := indentCut indent
  let right := max l.size left
  if right - left ≤ l.available then ⟨left, right⟩
  else if indent ≤ labelStop ∧ labelStop - indent ≤ l.available then
    opened indent 0 l.available
  else if labelStop - start ≤ l.available then
    opened start ((l.available - (labelStop - start)) / 2) l.available
  else if stop - start ≤ l.available then
    opened start ((l.available - (stop - start)) / 5 * 2) l.available
  else ⟨start, stop⟩

end Window

/-- Blank columns that a line starts with; none when it is all blank. -/
def indentOf (line : List Char) : Nat :=
  if line.all isBlank then 0
  else (line.takeWhile isBlank).foldr
    (fun c width => (if c = '\t' then 4 else 1) + width) 0

/-- Leaves out characters until so many columns are gone, and tells how many
more columns than that the last one took. -/
def dropColumns : Nat → List Char → Nat × List Char
  | 0, text => (0, text)
  | _, [] => (0, [])
  | n + 1, c :: rest =>
    if n + 1 < columns c then (columns c - (n + 1), rest)
    else dropColumns (n + 1 - columns c) rest

/-- The characters from the first on that fit so many columns. -/
def takeColumns : Nat → List Char → List Char
  | _, [] => []
  | n, c :: rest =>
    if columns c ≤ n then c :: takeColumns (n - columns c) rest else []

/-- The fewest characters from the first on that take so many columns. -/
def coverColumns : Nat → List Char → List Char
  | 0, _ => []
  | _, [] => []
  | n + 1, c :: rest => c :: coverColumns (n + 1 - columns c) rest

theorem takeColumns_width (n : Nat) (text : List Char) :
    displayWidth (takeColumns n text) ≤ n := by
  induction text generalizing n with
  | nil => simp [takeColumns, displayWidth]
  | cons c rest ih =>
    simp only [takeColumns]
    split
    · have := ih (n - columns c)
      simp only [displayWidth]
      omega
    · simp [displayWidth]

end FilterLanguage
