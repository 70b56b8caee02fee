import EndpointGate.Json.Basic
import EndpointGate.Number.Notation
import EndpointGate.Text.Quoted

/-! Compact JSON text. A string escapes quotes, backslashes and controls, and nothing else. -/

namespace EndpointGate.Json

def hexOctet (n : Nat) : List Char :=
  ['0', '0', Text.hexDigit (n / 16 % 16), Text.hexDigit (n % 16)]

def escapeChar (c : Char) : List Char :=
  if c = '"' then ['\\', '"']
  else if c = '\\' then ['\\', '\\']
  else if c.toNat = 8 then ['\\', 'b']
  else if c.toNat = 12 then ['\\', 'f']
  else if c = '\n' then ['\\', 'n']
  else if c = '\r' then ['\\', 'r']
  else if c = '\t' then ['\\', 't']
  else if c.toNat < 0x20 then '\\' :: 'u' :: hexOctet c.toNat
  else [c]

def stringChars (s : String) : List Char := '"' :: s.toList.flatMap escapeChar ++ ['"']

def intChars (n : Int) : List Char :=
  if n < 0 then '-' :: NumberStyle.naturalDigits n.natAbs else NumberStyle.naturalDigits n.natAbs

mutual

def chars : Json → List Char
  | .null => ['n', 'u', 'l', 'l']
  | .bool true => ['t', 'r', 'u', 'e']
  | .bool false => ['f', 'a', 'l', 's', 'e']
  | .int n => intChars n
  | .real x => if x.isFinite then x.jsonText.toList else ['n', 'u', 'l', 'l']
  | .str s => stringChars s
  | .arr items => '[' :: itemsChars items ++ [']']
  | .obj fields => '\x7b' :: fieldsChars fields ++ ['\x7d']

def itemsChars : List Json → List Char
  | [] => []
  | [j] => chars j
  | j :: more => chars j ++ ',' :: itemsChars more

def fieldsChars : List (String × Json) → List Char
  | [] => []
  | [(k, j)] => stringChars k ++ ':' :: chars j
  | (k, j) :: more => stringChars k ++ ':' :: (chars j ++ ',' :: fieldsChars more)

end

def render (j : Json) : String := String.ofList (chars j)

end EndpointGate.Json
