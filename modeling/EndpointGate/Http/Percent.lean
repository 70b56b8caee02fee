import EndpointGate.Json.Fields
import EndpointGate.Text.Utf8

/-! Octets written as `%` and two hexadecimal digits, and queries made of such names and values. -/

namespace EndpointGate.Http

def octetsOf (cs : List Char) : List UInt8 := (String.ofList cs).toUTF8.data.toList

def hexValue? (b : UInt8) : Option Nat :=
  if 48 ≤ b && b ≤ 57 then some (b.toNat - 48)
  else if 65 ≤ b && b ≤ 70 then some (b.toNat - 55)
  else if 97 ≤ b && b ≤ 102 then some (b.toNat - 87)
  else none

def percentDecode : List UInt8 → List UInt8
  | 37 :: a :: b :: rest =>
    match hexValue? a, hexValue? b with
    | some x, some y => UInt8.ofNat (x * 16 + y) :: percentDecode rest
    | _, _ => 37 :: percentDecode (a :: b :: rest)
  | b :: rest => b :: percentDecode rest
  | [] => []

def decodeSegment (segment : List Char) : Option String :=
  String.fromUTF8? ⟨(percentDecode (octetsOf segment)).toArray⟩

def decodeField (cs : List UInt8) : String :=
  Text.shown ⟨(percentDecode (cs.map fun b => if b == 43 then 32 else b)).toArray⟩

def splitOctets (separator : UInt8) (piece : List UInt8) : List UInt8 → List (List UInt8)
  | [] => [piece.reverse]
  | b :: rest =>
    if b == separator then piece.reverse :: splitOctets separator [] rest
    else splitOctets separator (b :: piece) rest

def queryPairs (query : List Char) : List (String × String) :=
  ((splitOctets 38 [] (octetsOf query)).filter (!·.isEmpty)).map fun piece =>
    let name := piece.takeWhile (· != 61)
    (decodeField name, decodeField (piece.drop (name.length + 1)))

def queryFields (query : List Char) : Fields String := .ofList (queryPairs query)

end EndpointGate.Http
