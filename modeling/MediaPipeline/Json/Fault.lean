/-!
What can be wrong with the text of a document.
-/

namespace MediaPipeline.Json

/-- A place where a text stops being a document. -/
inductive Fault where
  | unfinishedValue
  | unfinishedList
  | unfinishedObject
  | unfinishedText
  | valueExpected
  | wordExpected
  | colonExpected
  | listCommaExpected
  | objectCommaExpected
  | trailingComma
  | trailingCharacters
  | keyNotText
  | invalidNumber
  | numberOutOfRange
  | invalidEscape
  | loneSurrogate
  | unfinishedSurrogatePair
  | controlCharacter
  deriving DecidableEq

def Fault.message : Fault → String
  | unfinishedValue => "EOF while parsing a value"
  | unfinishedList => "EOF while parsing a list"
  | unfinishedObject => "EOF while parsing an object"
  | unfinishedText => "EOF while parsing a string"
  | valueExpected => "expected value"
  | wordExpected => "expected ident"
  | colonExpected => "expected `:`"
  | listCommaExpected => "expected `,` or `]`"
  | objectCommaExpected => "expected `,` or `\x7d`"
  | trailingComma => "trailing comma"
  | trailingCharacters => "trailing characters"
  | keyNotText => "key must be a string"
  | invalidNumber => "invalid number"
  | numberOutOfRange => "number out of range"
  | invalidEscape => "invalid escape"
  | loneSurrogate => "lone leading surrogate in hex escape"
  | unfinishedSurrogatePair => "unexpected end of hex escape"
  | controlCharacter => "control character (\\u0000-\\u001F) found while parsing a string"

end MediaPipeline.Json
