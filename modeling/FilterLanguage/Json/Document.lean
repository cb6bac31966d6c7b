import FilterLanguage.Number.Basic

/-!
# JSON documents as far as they can be read

A document is a tree that also has a place for the fault at which reading
stopped.  Everything before that place is there, so that whoever interprets a
document in the order of its text comes first upon whichever is first: a value
that does not fit, or the fault.
-/

namespace FilterLanguage

inductive JsonFault where
  | endOfList
  | endOfObject
  | endOfString
  | endOfValue
  | expectedColon
  | expectedCommaOrBracket
  | expectedCommaOrBrace
  | expectedWord
  | expectedValue
  | badEscape
  | badNumber
  | numberOutOfRange
  | controlCharacter
  | keyNotString
  | loneSurrogate
  | endOfSurrogate
  | trailingComma
  | trailingCharacters
deriving DecidableEq

def JsonFault.message : JsonFault → String
  | .endOfList => "EOF while parsing a list"
  | .endOfObject => "EOF while parsing an object"
  | .endOfString => "EOF while parsing a string"
  | .endOfValue => "EOF while parsing a value"
  | .expectedColon => "expected `:`"
  | .expectedCommaOrBracket => "expected `,` or `]`"
  | .expectedCommaOrBrace => "expected `,` or `\x7d`"
  | .expectedWord => "expected ident"
  | .expectedValue => "expected value"
  | .badEscape => "invalid escape"
  | .badNumber => "invalid number"
  | .numberOutOfRange => "number out of range"
  | .controlCharacter =>
    "control character (\\u0000-\\u001F) found while parsing a string"
  | .keyNotString => "key must be a string"
  | .loneSurrogate => "lone leading surrogate in hex escape"
  | .endOfSurrogate => "unexpected end of hex escape"
  | .trailingComma => "trailing comma"
  | .trailingCharacters => "trailing characters"

/-- A value of a document.  A fault behind the parts of an array or an object
stands where its closing bracket was expected. -/
inductive Node where
  | null
  | boolean (value : Bool)
  | integer (value : Int)
  | floating (value : Number)
  | string (value : String)
  | array (items : List Node) (fault : Option JsonFault)
  | object (members : List (String × Node)) (fault : Option JsonFault)
  | malformed (fault : JsonFault)

/-- A whole document: its value, and the fault of anything behind it. -/
structure Document where
  root : Node
  fault : Option JsonFault

end FilterLanguage
