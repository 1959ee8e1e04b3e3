import EntityModels.Json.Double
import EntityModels.Text.Quoted

/-!
What can be wrong with JSON text and with JSON data, where it is, and how it is reported.
-/
namespace EntityModels

/-- A fault of the text itself. -/
inductive SyntaxFault where
  | eofInList
  | eofInObject
  | eofInString
  | eofInValue
  | expectedColon
  | expectedListEnd
  | expectedObjectEnd
  | expectedWord
  | expectedValue
  | invalidEscape
  | invalidNumber
  | numberOutOfRange
  | controlCharacter
  | keyNotString
  | loneSurrogate
  | trailingComma
  | trailingCharacters
  | endOfEscape
  | tooDeep
deriving DecidableEq, Repr

def SyntaxFault.message : SyntaxFault → String
  | .eofInList => "EOF while parsing a list"
  | .eofInObject => "EOF while parsing an object"
  | .eofInString => "EOF while parsing a string"
  | .eofInValue => "EOF while parsing a value"
  | .expectedColon => "expected `:`"
  | .expectedListEnd => "expected `,` or `]`"
  | .expectedObjectEnd => "expected `,` or `\x7d`"
  | .expectedWord => "expected ident"
  | .expectedValue => "expected value"
  | .invalidEscape => "invalid escape"
  | .invalidNumber => "invalid number"
  | .numberOutOfRange => "number out of range"
  | .controlCharacter => "control character (\\u0000-\\u001F) found while parsing a string"
  | .keyNotString => "key must be a string"
  | .loneSurrogate => "lone leading surrogate in hex escape"
  | .trailingComma => "trailing comma"
  | .trailingCharacters => "trailing characters"
  | .endOfEscape => "unexpected end of hex escape"
  | .tooDeep => "recursion limit exceeded"

/-- A value as reports name it: scalars with their value, lists and objects only by their kind. -/
inductive Found where
  | null
  | bool (value : Bool)
  | number (value : JsonNumber)
  | string (value : String)
  | sequence
  | map
deriving DecidableEq, Repr

def Json.found : Json → Found
  | .null => .null
  | .bool b => .bool b
  | .number n => .number n
  | .string s => .string s
  | .array _ => .sequence
  | .object _ => .map

def Found.description : Found → String
  | .null => "null"
  | .bool b => "boolean `" ++ toString b ++ "`"
  | .number (.integer n) => "integer `" ++ toString n ++ "`"
  | .number (.double d) => "floating point `" ++ d.text ++ "`"
  | .string s => "string " ++ Text.quoted s
  | .sequence => "sequence"
  | .map => "map"

/-- A fault of data that is well-formed JSON. -/
inductive DataFault where
  | wrongType (found : Found) (expected : String)
  | wrongValue (found : Found) (expected : String)
  | wrongLength (length : Nat) (expected : String)
  | missingField (name : String)
  | duplicateField (name : String)
  | unknownVariant (name : String) (expected : List String)
  | noVariant (enumeration : String)
deriving DecidableEq, Repr

def DataFault.message : DataFault → String
  | .wrongType found expected =>
    "invalid type: " ++ found.description ++ ", expected " ++ expected
  | .wrongValue found expected =>
    "invalid value: " ++ found.description ++ ", expected " ++ expected
  | .wrongLength length expected =>
    "invalid length " ++ toString length ++ ", expected " ++ expected
  | .missingField name => "missing field `" ++ name ++ "`"
  | .duplicateField name => "duplicate field `" ++ name ++ "`"
  | .unknownVariant name expected =>
    "unknown variant `" ++ name ++ "`, expected one of " ++
      String.intercalate ", " (expected.map fun e => "`" ++ e ++ "`")
  | .noVariant enumeration =>
    "data did not match any variant of untagged enum " ++ enumeration

/-- A place in a text: the line, counted from one, and the bytes before it on that line. -/
structure Place where
  line : Nat
  column : Nat
deriving DecidableEq, Repr

/-- One step down from a value to a part of it. -/
inductive PathStep where
  | key (name : String)
  | index (i : Nat)
  | unnamed
deriving DecidableEq, Repr

/-- A path from the root: steps with points between them, except before an index. -/
def pathText : List PathStep → String
  | [] => "."
  | first :: rest => stepText "" first ++ String.join (rest.map (stepText "."))
where
  stepText (point : String) : PathStep → String
    | .key name => point ++ name
    | .index i => "[" ++ toString i ++ "]"
    | .unnamed => point ++ "?"

/-- What was wrong: the text or the data. -/
inductive FaultCause where
  | text (fault : SyntaxFault)
  | data (fault : DataFault)
deriving DecidableEq, Repr

def FaultCause.message : FaultCause → String
  | .text fault => fault.message
  | .data fault => fault.message

/-- A fault with its place, if the value came from a text, and its path from the root. -/
structure Fault where
  cause : FaultCause
  place : Option Place := none
  path : List PathStep := []
deriving DecidableEq, Repr

namespace Fault

/-- The cause, followed by the place if there is one. -/
def message (fault : Fault) : String :=
  match fault.place with
  | none => fault.cause.message
  | some place =>
    fault.cause.message ++ " at line " ++ toString place.line ++ " column " ++
      toString place.column

/-- The fault seen from one level further out. -/
def under (step : PathStep) (fault : Fault) : Fault := { fault with path := step :: fault.path }

/-- Gives a place to a fault that has none. -/
def placedAt (place : Place) (fault : Fault) : Fault :=
  { fault with place := fault.place.or (some place) }

end Fault

end EntityModels
