import FilterLanguage.Text.CharRange

/-!
# White space

Characters with the Unicode property White_Space.  Only the space character
separates tokens of a filter; this class is for trimming output.
-/

namespace FilterLanguage

def blankRanges : CharRanges :=
  [
    (0x9, 0xd), (0x20, 0x20), (0x85, 0x85), (0xa0, 0xa0), (0x1680, 0x1680),
    (0x2000, 0x200a), (0x2028, 0x2029), (0x202f, 0x202f), (0x205f, 0x205f),
    (0x3000, 0x3000)
  ]

def isBlank (c : Char) : Bool := blankRanges.has c

def trimEnd (cs : List Char) : List Char :=
  (cs.reverse.dropWhile isBlank).reverse

end FilterLanguage
