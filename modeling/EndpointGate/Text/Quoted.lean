import EndpointGate.Text.PrintableTable
import EndpointGate.Text.Ranges

/-! A text between double quotes for a diagnostic: what cannot be seen is written as an escape. -/

namespace EndpointGate.Text

def hexDigit (n : Nat) : Char :=
  if n < 10 then Char.ofNat (48 + n) else Char.ofNat (87 + n)

/-- Hexadecimal digits of `n`, the lowest first, at most `fuel` of them. -/
def hexDigitsUp : Nat → Nat → List Char
  | 0, _ => []
  | fuel + 1, n => hexDigit (n % 16) :: if n < 16 then [] else hexDigitsUp fuel (n / 16)

def hexDigits (n : Nat) : List Char := (hexDigitsUp 8 n).reverse

def isPrintable (c : Char) : Bool := !inRanges unprintableRanges c

def quoteChar (apostrophes : Bool) (c : Char) : List Char :=
  if c = '\x00' then ['\\', '0']
  else if c = '\t' then ['\\', 't']
  else if c = '\r' then ['\\', 'r']
  else if c = '\n' then ['\\', 'n']
  else if c = '\\' || c = '"' || (apostrophes && c = '\'') then ['\\', c]
  else if 0x20 ≤ c.toNat && c.toNat < 0x7F then [c]
  else if !inRanges graphemeExtendRanges c && isPrintable c then [c]
  else '\\' :: 'u' :: '\x7b' :: hexDigits c.toNat ++ ['\x7d']

def quoteWith (apostrophes : Bool) (s : String) : String :=
  String.ofList ('"' :: s.toList.flatMap (quoteChar apostrophes) ++ ['"'])

def quote (s : String) : String := quoteWith false s

def quotePath (s : String) : String := quoteWith true s

end EndpointGate.Text
