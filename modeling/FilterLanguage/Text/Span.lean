/-!
# Byte spans

Positions in a filter text count UTF-8 bytes.  A span runs from its first byte
up to, and not including, its last.
-/

namespace FilterLanguage

/-- Bytes that the characters take in UTF-8. -/
def byteLength : List Char → Nat
  | [] => 0
  | c :: rest => c.utf8Size + byteLength rest

@[simp] theorem byteLength_nil : byteLength [] = 0 := rfl

@[simp] theorem byteLength_cons (c : Char) (rest : List Char) :
    byteLength (c :: rest) = c.utf8Size + byteLength rest := rfl

@[simp] theorem byteLength_append (xs ys : List Char) :
    byteLength (xs ++ ys) = byteLength xs + byteLength ys := by
  induction xs with
  | nil => simp
  | cons c rest ih => simp [ih, Nat.add_assoc]

structure Span where
  start : Nat
  stop : Nat
deriving DecidableEq, Repr

namespace Span

def point (offset : Nat) : Span := ⟨offset, offset⟩

def length (span : Span) : Nat := span.stop - span.start

def isEmpty (span : Span) : Bool := span.start == span.stop

def cover (a b : Span) : Span :=
  ⟨min a.start b.start, max a.stop b.stop⟩

/-- The part to underline in a text of `limit` bytes.  An empty span is widened
to one byte, except at the end of the text. -/
def underlined (span : Span) (limit : Nat) : Span :=
  let start := min span.start limit
  let stop := min span.stop limit
  if start = stop then ⟨start, min (start + 1) limit⟩ else ⟨start, stop⟩

def text (span : Span) : String :=
  span.start.repr ++ ".." ++ span.stop.repr

end Span

end FilterLanguage
