import EndpointGate.Sql.Value

/-! Numbers in texts: the longest number that a text starts with, and whether the text is that number
and nothing else. Blanks around a number do not count. -/

namespace EndpointGate.Sql

structure Numeral where
  negative : Bool
  digits : Nat
  scale : Int
  fractional : Bool
  entire : Bool
  deriving DecidableEq, Repr

namespace Numeral

def isBlank (b : UInt8) : Bool := b == 32 || (9 ≤ b && b ≤ 13)

def digit? (b : UInt8) : Option Nat := if 48 ≤ b && b ≤ 57 then some (b.toNat - 48) else none

def takeDigits (count value : Nat) : List UInt8 → Nat × Nat × List UInt8
  | [] => (count, value, [])
  | b :: rest =>
    match digit? b with
    | some d => takeDigits (count + 1) (value * 10 + d) rest
    | none => (count, value, b :: rest)

def takeSign : List UInt8 → Bool × List UInt8
  | 45 :: rest => (true, rest)
  | 43 :: rest => (false, rest)
  | rest => (false, rest)

def greatestExponent : Nat := 10000

def takeExponent : List UInt8 → Option (Int × List UInt8)
  | 69 :: rest | 101 :: rest =>
    let (negative, rest) := takeSign rest
    match takeDigits 0 0 rest with
    | (0, _, _) => none
    | (_, e, rest) =>
      let e : Int := min e greatestExponent
      some (if negative then -e else e, rest)
  | _ => none

def takeFraction (value : Nat) : List UInt8 → Option (Nat × Nat × List UInt8)
  | 46 :: rest => some (takeDigits 0 value rest)
  | _ => none

def read (text : List UInt8) : Numeral :=
  let (negative, rest) := takeSign (text.dropWhile isBlank)
  let (whole, value, rest) := takeDigits 0 0 rest
  let point := takeFraction value rest
  let (places, value, rest) := point.getD (0, value, rest)
  let power := takeExponent rest
  let (e, rest) := power.getD (0, rest)
  { negative, digits := value, scale := e - places
    fractional := point.isSome || power.isSome
    entire := 0 < whole + places && rest.all isBlank }

def toReal (n : Numeral) : Binary64 :=
  let x := Binary64.ofDecimal n.digits n.scale
  if n.negative then x.neg else x

def wholePart (text : List UInt8) : Int :=
  let (negative, rest) := takeSign (text.dropWhile isBlank)
  let n : Int := (takeDigits 0 0 rest).2.1
  if negative then -n else n

def toInt (n : Numeral) : Int := if n.negative then -(n.digits : Int) else n.digits

def toValue (n : Numeral) : Value :=
  if !n.fractional && Value.isInt64 n.toInt then .integer n.toInt else .real n.toReal

end Numeral

end EndpointGate.Sql
