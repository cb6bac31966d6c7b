/-!
# Painted rows

A row of a snippet consists of cells with one character each.  Texts are put on
it from a column on, each in one paint, over whatever is there.
-/

namespace FilterLanguage

/-- The parts of a snippet that are told apart by color. -/
inductive Paint where
  | plain
  | title
  | fault
  | frame
deriving DecidableEq

namespace Paint

/-- What switches the color on; nothing for plain text. -/
def code : Paint → String
  | .plain => ""
  | .title => "\x1b[1m"
  | .fault => "\x1b[1m\x1b[91m"
  | .frame => "\x1b[1m\x1b[94m"

/-- The text with its color switched on before it and off behind it. -/
def apply (paint : Paint) (text : String) : String :=
  match paint with
  | .plain => text
  | _ => paint.code ++ text ++ "\x1b[0m"

end Paint

structure Cell where
  char : Char
  paint : Paint
deriving DecidableEq

abbrev Row := List Cell

namespace Row

/-- Puts a text on a row.  Cells in between are plain spaces; no text at all
changes nothing. -/
def put (row : Row) (column : Nat) (paint : Paint) (text : List Char) : Row :=
  if text = [] then row
  else
    let gap := List.replicate (column - row.length) ⟨' ', .plain⟩
    row.take column ++ gap ++ text.map (⟨·, paint⟩) ++
      row.drop (column + text.length)

def add (row : Row) (paint : Paint) (text : List Char) : Row :=
  row ++ text.map (⟨·, paint⟩)

def run (cells : Row) : String :=
  match cells with
  | [] => ""
  | first :: _ => first.paint.apply (String.ofList (cells.map Cell.char))

def text (colored : Bool) (row : Row) : String :=
  if colored then
    String.join ((row.splitBy fun a b => a.paint == b.paint).map run)
  else String.ofList (row.map Cell.char)

/-- A text that is put on a row is what the row shows there. -/
theorem put_chars {row : Row} {column : Nat} {paint : Paint} {text : List Char}
    (htext : text ≠ []) :
    (((row.put column paint text).drop column).take text.length).map Cell.char
      = text := by
  have hlength : (row.take column ++
      List.replicate (column - row.length)
        (⟨' ', .plain⟩ : Cell)).length = column := by
    simp only [List.length_append, List.length_take, List.length_replicate]
    omega
  simp only [put, if_neg htext]
  rw [List.append_assoc, List.drop_append_of_le_length (by omega),
    List.drop_of_length_le (by omega), List.nil_append,
    List.take_append_of_le_length (by simp)]
  simp [List.map_take, Function.comp_def]

end Row

end FilterLanguage
