import EndpointGate.Number.Decimal

/-! How a decimal is written: with a point in place, or with an exponent, as a style says. -/

namespace EndpointGate

/-- The choices of a number format: the powers of ten of the first digit that are written in place,
the sign of a positive exponent, the least number of exponent digits, and whether a lone digit before
an exponent gets a fraction. -/
structure NumberStyle where
  least : Int
  greatest : Int
  plus : Bool
  exponentDigits : Nat
  fraction : Bool

namespace NumberStyle

def digitChar (n : Nat) : Char := Char.ofNat (48 + n % 10)

def digitsUp : Nat → Nat → List Char
  | 0, _ => []
  | fuel + 1, n => digitChar n :: if n < 10 then [] else digitsUp fuel (n / 10)

def naturalDigits (n : Nat) : List Char := (digitsUp (n + 1) n).reverse

def padded (least n : Nat) : List Char :=
  let ds := naturalDigits n
  List.replicate (least - ds.length) '0' ++ ds

def inPlace (ds : List Char) (places : Int) : List Char :=
  match places with
  | .ofNat (k + 1) =>
    if ds.length ≤ k + 1 then ds ++ List.replicate (k + 1 - ds.length) '0' ++ ['.', '0']
    else ds.take (k + 1) ++ '.' :: ds.drop (k + 1)
  | .ofNat 0 => '0' :: '.' :: ds
  | .negSucc k => '0' :: '.' :: List.replicate (k + 1) '0' ++ ds

def withExponent (style : NumberStyle) (ds : List Char) (power : Int) : List Char :=
  let mantissa := match ds with
    | [] => ['0']
    | [d] => if style.fraction then [d, '.', '0'] else [d]
    | d :: more => d :: '.' :: more
  let sign := if power < 0 then ['-'] else if style.plus then ['+'] else []
  mantissa ++ 'e' :: sign ++ padded style.exponentDigits power.natAbs

def write (style : NumberStyle) (negative : Bool) (d : Decimal) : String :=
  let ds := naturalDigits d.digits
  let power := d.exponent + ds.length - 1
  let body :=
    if style.least ≤ power && power ≤ style.greatest then inPlace ds (power + 1)
    else style.withExponent ds power
  String.ofList (if negative then '-' :: body else body)

end NumberStyle

def NumberStyle.json : NumberStyle := ⟨-5, 15, true, 1, false⟩

def NumberStyle.debug : NumberStyle := ⟨-4, 15, false, 1, false⟩

def NumberStyle.sql : NumberStyle := ⟨-4, 14, true, 2, true⟩

namespace Binary64

def jsonText (x : Binary64) : String :=
  NumberStyle.json.write x.negative (Decimal.shortest x)

def debugText (x : Binary64) : String :=
  if x.isNaN then "NaN"
  else if !x.isFinite then (if x.negative then "-inf" else "inf")
  else NumberStyle.debug.write x.negative (Decimal.shortest x)

/-- The text that a statement makes of a double that is a number: fifteen significant digits. -/
def sqlText (x : Binary64) : String :=
  if !x.isFinite then (if x.negative then "-Inf" else "Inf")
  else NumberStyle.sql.write (x.negative && !x.isZero) (Decimal.rounded 15 x)

end Binary64

end EndpointGate
