import ContentCoding.Decimal.Shortest
import ContentCoding.Text.Quoted

/-!
# Errors of reading JSON

Reading reports the first fault of the text in reading order: a break of the
grammar, or a value that its place cannot hold. `ReadError.message` is the only
place where these errors are worded.
-/

namespace ContentCoding.Json

/-- How a fraction is written: positionally from one hundred-thousandth up to
sixteen digits before the point. -/
def fraction : Decimal.Shortest.Layout := ⟨-5, 16⟩

/-- A value that was found where another was expected. -/
inductive Found
  | null
  | boolean (value : Bool)
  | integer (value : Int)
  | float (value : Float)
  | string (value : String)
  | sequence
  | map

/-- The wording of a value that was found. -/
def Found.text : Found → String
  | .null => "null"
  | .boolean value => "boolean `" ++ (if value then "true" else "false") ++ "`"
  | .integer value => "integer `" ++ toString value ++ "`"
  | .float value => "floating point `" ++ Decimal.Shortest.format fraction value ++ "`"
  | .string value => "string " ++ Text.Quoted.quote value
  | .sequence => "sequence"
  | .map => "map"

/-- Why a text could not be read. -/
inductive ReadError
  | endInValue
  | endInObject
  | endInList
  | endInString
  | expectedValue
  | expectedIdent
  | expectedColon
  | expectedListCommaOrEnd
  | expectedObjectCommaOrEnd
  | keyNotString
  | trailingComma
  | trailingCharacters
  | invalidNumber
  | numberOutOfRange
  | invalidEscape
  | controlCharacter
  | loneSurrogate
  | unfinishedSurrogatePair
  | wrongType (found : Found) (expected : String)
  | wrongValue (found : Found) (expected : String)
  | wrongLength (length : Nat) (expected : String)
  | duplicateField (name : String)
  | missingField (name : String)

/-- The wording of an error. -/
def ReadError.message : ReadError → String
  | .endInValue => "EOF while parsing a value"
  | .endInObject => "EOF while parsing an object"
  | .endInList => "EOF while parsing a list"
  | .endInString => "EOF while parsing a string"
  | .expectedValue => "expected value"
  | .expectedIdent => "expected ident"
  | .expectedColon => "expected `:`"
  | .expectedListCommaOrEnd => "expected `,` or `]`"
  | .expectedObjectCommaOrEnd => "expected `,` or `\x7d`"
  | .keyNotString => "key must be a string"
  | .trailingComma => "trailing comma"
  | .trailingCharacters => "trailing characters"
  | .invalidNumber => "invalid number"
  | .numberOutOfRange => "number out of range"
  | .invalidEscape => "invalid escape"
  | .controlCharacter => "control character (\\u0000-\\u001F) found while parsing a string"
  | .loneSurrogate => "lone leading surrogate in hex escape"
  | .unfinishedSurrogatePair => "unexpected end of hex escape"
  | .wrongType found expected => "invalid type: " ++ found.text ++ ", expected " ++ expected
  | .wrongValue found expected => "invalid value: " ++ found.text ++ ", expected " ++ expected
  | .wrongLength length expected =>
    "invalid length " ++ toString length ++ ", expected " ++ expected
  | .duplicateField name => "duplicate field `" ++ name ++ "`"
  | .missingField name => "missing field `" ++ name ++ "`"

/-- A reader takes something off the front of a text and gives back the rest. -/
abbrev Reading (α : Type) := Except ReadError (α × List Char)

/-- Whether a character may stand between two tokens. -/
def isSpace (c : Char) : Bool := c == ' ' || c == '\n' || c == '\t' || c == '\r'

/-- Pass over white space. -/
def skipSpace (text : List Char) : List Char := text.dropWhile isSpace

/-- Take the rest of a word whose first letter has been seen. -/
def readWord : (word : List Char) → List Char → Except ReadError (List Char)
  | [], text => .ok text
  | _ :: _, [] => .error .endInValue
  | expected :: word, c :: text =>
    if c = expected then readWord word text else .error .expectedIdent

end ContentCoding.Json
