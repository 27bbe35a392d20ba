import ShapeCoords.Text.Quoted
import ShapeCoords.Text.Description
import ShapeCoords.Json.Value

/-!
What can be wrong with a JSON text, and where. Lines and columns count from one, columns in bytes.
-/

namespace ShapeCoords.Json

/-- A value that does not fit where it stands. -/
inductive Found where
  | null
  | bool (b : Bool)
  | int (i : Int)
  | float (v : Float)
  | string (s : String)
  | array
  | object

inductive Cause where
  | endInValue
  | endInString
  | endInList
  | endInObject
  | expectedValue
  | expectedWord
  | expectedColon
  | expectedCommaOrListEnd
  | expectedCommaOrObjectEnd
  | nameNotString
  | trailingComma
  | trailingCharacters
  | invalidNumber
  | numberOutOfRange
  | invalidEscape
  | unpairedEscape
  | loneSurrogate
  | controlCharacter
  | tooDeep
  | wrongType (found : Found) (expected : String)
  | wrongLength (length : Nat) (expected : String)
  | unknownVariant (name : String) (variants : List String)
  | unknownField (name : String) (fields : List String)
  | duplicateField (name : String)
  | missingField (name : String)
  | noVariant (type : String)

/-- A fault gets its place, an offset in bytes, when the value around it is left. -/
structure Fault where
  cause : Cause
  place : Option Nat

/-- Numbers in messages about JSON: an exponent has a sign. -/
def messageNumber : Number.Layout :=
  { Number.diagnostic with least := -5, tie := .even, marksPlus := true }

def Found.describe : Found → String
  | .null => "null"
  | .bool b => "boolean `" ++ (if b then "true" else "false") ++ "`"
  | .int i => "integer `" ++ String.ofList (Number.intDigits i) ++ "`"
  | .float v => "floating point `" ++ String.ofList (messageNumber.text v) ++ "`"
  | .string s => "string " ++ Text.quote s
  | .array => "sequence"
  | .object => "map"

def Cause.message : Cause → String
  | .endInValue => "EOF while parsing a value"
  | .endInString => "EOF while parsing a string"
  | .endInList => "EOF while parsing a list"
  | .endInObject => "EOF while parsing an object"
  | .expectedValue => "expected value"
  | .expectedWord => "expected ident"
  | .expectedColon => "expected `:`"
  | .expectedCommaOrListEnd => "expected `,` or `]`"
  | .expectedCommaOrObjectEnd => "expected `,` or `\x7d`"
  | .nameNotString => "key must be a string"
  | .trailingComma => "trailing comma"
  | .trailingCharacters => "trailing characters"
  | .invalidNumber => "invalid number"
  | .numberOutOfRange => "number out of range"
  | .invalidEscape => "invalid escape"
  | .unpairedEscape => "unexpected end of hex escape"
  | .loneSurrogate => "lone leading surrogate in hex escape"
  | .controlCharacter => "control character (\\u0000-\\u001F) found while parsing a string"
  | .tooDeep => "recursion limit exceeded"
  | .wrongType found expected => "invalid type: " ++ found.describe ++ ", expected " ++ expected
  | .wrongLength length expected =>
    "invalid length " ++ String.ofList (Number.digitsOf length) ++ ", expected " ++ expected
  | .unknownVariant name variants =>
    "unknown variant `" ++ name ++ "`, expected " ++ Text.oneOf variants
  | .unknownField name fields => "unknown field `" ++ name ++ "`, expected " ++ Text.oneOf fields
  | .duplicateField name => "duplicate field `" ++ name ++ "`"
  | .missingField name => "missing field `" ++ name ++ "`"
  | .noVariant type => "data did not match any variant of untagged enum " ++ type

def lineAndColumn : List Char → Nat → Nat × Nat → Nat × Nat
  | [], _, p => p
  | c :: s, offset, (line, column) =>
    if offset < c.utf8Size then (line, column + offset)
    else if c = '\n' then lineAndColumn s (offset - 1) (line + 1, 0)
    else lineAndColumn s (offset - c.utf8Size) (line, column + c.utf8Size)

def Fault.message (text : List Char) (f : Fault) : String :=
  match f.place with
  | none => f.cause.message
  | some offset =>
    let (line, column) := lineAndColumn text offset (1, 0)
    f.cause.message ++ " at line " ++ String.ofList (Number.digitsOf line) ++ " column " ++
      String.ofList (Number.digitsOf column)

end ShapeCoords.Json
