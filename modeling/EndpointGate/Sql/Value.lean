import EndpointGate.Json.Printer
import EndpointGate.Text.Base64
import EndpointGate.Text.Utf8

/-! Values of the database, and how JSON values go in and come out. Texts are octets: a statement can
make one that is not valid UTF-8. -/

namespace EndpointGate.Sql

instance (priority := 2000) octetsEq : DecidableEq ByteArray := ByteArray.instDecidableEq

inductive Value
  | null
  | integer (n : Int)
  | real (x : Binary64)
  | text (octets : ByteArray)
  | blob (octets : ByteArray)
  deriving DecidableEq, Inhabited

namespace Value

def ofString (s : String) : Value := .text s.toUTF8

def leastInteger : Int := -9223372036854775808

def greatestInteger : Int := 9223372036854775807

def isInt64 (n : Int) : Bool := leastInteger ≤ n && n ≤ greatestInteger

/-- Booleans go in as 0 and 1, integers beyond 63 bits as the nearest double, lists and objects as
their JSON text. -/
def ofJson : Json → Value
  | .null => .null
  | .bool b => .integer (if b then 1 else 0)
  | .int n => if isInt64 n then .integer n else .real (.ofInt n)
  | .real x => .real x
  | .str s => .ofString s
  | j => .ofString j.render

/-- Blobs come out in base64, doubles that are no numbers as null, and texts as they show. -/
def toJson : Value → Json
  | .null => .null
  | .integer n => .int n
  | .real x => if x.isFinite then .real x else .null
  | .text octets => .str (Text.shown octets)
  | .blob octets => .str (Text.base64 octets)

def typeName : Value → String
  | .null => "null"
  | .integer _ => "integer"
  | .real _ => "real"
  | .text _ => "text"
  | .blob _ => "blob"

end Value

end EndpointGate.Sql
