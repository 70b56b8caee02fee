/-! Double precision numbers, kept by their 64 bits so that they can be told apart and compared for
identity; arithmetic goes through the machine's floating point. -/

namespace EndpointGate

structure Binary64 where
  bits : UInt64
  deriving DecidableEq, Repr, Inhabited

namespace Binary64

def ofFloat (x : Float) : Binary64 := ⟨x.toBits⟩

def toFloat (x : Binary64) : Float := Float.ofBits x.bits

/-- The nearest double of an integer, a tie going to the even significand. -/
def ofInt : Int → Binary64
  | .ofNat n => ofFloat (Float.ofScientific n false 0)
  | .negSucc n => ofFloat (-(Float.ofScientific (n + 1) false 0))

def ofDecimal (digits : Nat) (exponent : Int) : Binary64 :=
  match exponent with
  | .ofNat e => ofFloat (Float.ofScientific digits false e)
  | .negSucc e => ofFloat (Float.ofScientific digits true (e + 1))

def fractions : Nat := 4503599627370496

def negative (x : Binary64) : Bool := 2048 * fractions ≤ x.bits.toNat

def neg (x : Binary64) : Binary64 := ofFloat (-x.toFloat)

def biasedExponent (x : Binary64) : Nat := x.bits.toNat / fractions % 2048

def fraction (x : Binary64) : Nat := x.bits.toNat % fractions

def isFinite (x : Binary64) : Bool := x.biasedExponent != 2047

def isNaN (x : Binary64) : Bool := x.biasedExponent == 2047 && x.fraction != 0

def isZero (x : Binary64) : Bool := x.biasedExponent == 0 && x.fraction == 0

/-- The significand of a finite number: its magnitude is `significand · 2 ^ scale`. -/
def significand (x : Binary64) : Nat :=
  if x.biasedExponent = 0 then x.fraction else fractions + x.fraction

def scale (x : Binary64) : Int :=
  if x.biasedExponent = 0 then -1074 else (x.biasedExponent : Int) - 1075

def truncate (x : Binary64) : Int :=
  let magnitude : Nat := match x.scale with
    | .ofNat e => x.significand * Nat.pow 2 e
    | .negSucc e => x.significand / Nat.pow 2 (e + 1)
  if x.negative then -(magnitude : Int) else magnitude

def isIntegral (x : Binary64) : Bool :=
  x.isFinite && match x.scale with
    | .ofNat _ => true
    | .negSucc e => x.significand % Nat.pow 2 (e + 1) == 0

end Binary64

end EndpointGate
