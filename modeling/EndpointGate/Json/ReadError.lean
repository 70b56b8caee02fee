import EndpointGate.Json.Cursor
import EndpointGate.Number.Notation
import EndpointGate.Text.Quoted

/-! Why JSON text cannot be read, and where. -/

namespace EndpointGate.Json

inductive Found
  | null
  | bool (b : Bool)
  | int (n : Int)
  | real (x : Binary64)
  | str (s : String)
  | sequence
  | map
  deriving DecidableEq, Repr

def Found.describe : Found → String
  | .null => "null"
  | .bool b => "boolean `" ++ (if b then "true" else "false") ++ "`"
  | .int n => "integer `" ++ toString n ++ "`"
  | .real x => "floating point `" ++ x.jsonText ++ "`"
  | .str s => "string " ++ Text.quote s
  | .sequence => "sequence"
  | .map => "map"

inductive Fault
  | endInValue
  | endInList
  | endInObject
  | endInString
  | expectedValue
  | expectedIdent
  | expectedColon
  | expectedListComma
  | expectedObjectComma
  | keyNotString
  | trailingComma
  | trailingCharacters
  | invalidNumber
  | numberOutOfRange
  | invalidEscape
  | invalidCodePoint
  | loneSurrogate
  | hexEscapeCut
  | controlInString
  | tooDeep
  | wrongType (found : Found) (wanted : String)
  | wrongValue (found : Found) (wanted : String)
  | wrongLength (count : Nat) (wanted : String)
  | missingField (name : String)
  | duplicateField (name : String)
  | unknownVariant (name : String) (known : List String)
  deriving DecidableEq, Repr

def Fault.describe : Fault → String
  | .endInValue => "EOF while parsing a value"
  | .endInList => "EOF while parsing a list"
  | .endInObject => "EOF while parsing an object"
  | .endInString => "EOF while parsing a string"
  | .expectedValue => "expected value"
  | .expectedIdent => "expected ident"
  | .expectedColon => "expected `:`"
  | .expectedListComma => "expected `,` or `]`"
  | .expectedObjectComma => "expected `,` or `\x7d`"
  | .keyNotString => "key must be a string"
  | .trailingComma => "trailing comma"
  | .trailingCharacters => "trailing characters"
  | .invalidNumber => "invalid number"
  | .numberOutOfRange => "number out of range"
  | .invalidEscape => "invalid escape"
  | .invalidCodePoint => "invalid unicode code point"
  | .loneSurrogate => "lone leading surrogate in hex escape"
  | .hexEscapeCut => "unexpected end of hex escape"
  | .controlInString => "control character (\\u0000-\\u001F) found while parsing a string"
  | .tooDeep => "recursion limit exceeded"
  | .wrongType found wanted => "invalid type: " ++ found.describe ++ ", expected " ++ wanted
  | .wrongValue found wanted => "invalid value: " ++ found.describe ++ ", expected " ++ wanted
  | .wrongLength count wanted => "invalid length " ++ toString count ++ ", expected " ++ wanted
  | .missingField name => "missing field `" ++ name ++ "`"
  | .duplicateField name => "duplicate field `" ++ name ++ "`"
  | .unknownVariant name known =>
    "unknown variant `" ++ name ++ "`, expected one of "
      ++ ", ".intercalate (known.map fun k => "`" ++ k ++ "`")

inductive Step
  | index (i : Nat)
  | key (k : String)
  | unnamed
  deriving DecidableEq, Repr

structure ReadError where
  fault : Fault
  pos : Position
  path : List Step := []
  deriving DecidableEq, Repr

namespace ReadError

def under (step : Step) (e : ReadError) : ReadError := { e with path := step :: e.path }

def message (e : ReadError) : String :=
  e.fault.describe ++ " at line " ++ toString e.pos.line ++ " column " ++ toString e.pos.column

def stepsText (first : Bool) : List Step → String
  | [] => ""
  | .index i :: more => "[" ++ toString i ++ "]" ++ stepsText false more
  | .key k :: more => (if first then "" else ".") ++ k ++ stepsText false more
  | .unnamed :: more => (if first then "" else ".") ++ "?" ++ stepsText false more

def messageWithPath (e : ReadError) : String :=
  if e.path.all (· = .unnamed) then e.message else stepsText true e.path ++ ": " ++ e.message

end ReadError

end EndpointGate.Json
