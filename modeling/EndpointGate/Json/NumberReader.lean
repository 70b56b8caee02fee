import EndpointGate.Json.Basic
import EndpointGate.Json.ReadError

/-! Numbers in JSON text. Digits are gathered into 64 bits as far as they fit; a number that is not an
integer of 64 bits is the gathered digits scaled by a power of ten, in double arithmetic. -/

namespace EndpointGate.Json

/-- A number as gathered so far: the digits that fit 64 bits, and a power of ten. -/
structure Gathered where
  significand : Nat
  exponent : Int
  deriving DecidableEq, Repr

def fits (n : Nat) : Bool := n < 18446744073709551616

def gatherDigits (n : Nat) : List Nat → Nat × Nat
  | [] => (n, 0)
  | d :: ds => if fits (n * 10 + d) then gatherDigits (n * 10 + d) ds else (n, ds.length + 1)

def Gathered.fraction (g : Gathered) : List Nat → Gathered
  | [] => g
  | d :: ds =>
    if fits (g.significand * 10 + d) then
      Gathered.fraction ⟨g.significand * 10 + d, g.exponent - 1⟩ ds
    else g

def scaleUp : Nat → Float → Int → Option Float
  | 0, f, _ => some f
  | fuel + 1, f, e =>
    if e.natAbs ≤ 308 then
      if 0 ≤ e then
        let g := f * Float.ofScientific 1 false e.natAbs
        if g.isInf then none else some g
      else some (f / Float.ofScientific 1 false e.natAbs)
    else if f == 0.0 then some f
    else if 0 ≤ e then none
    else scaleUp fuel (f / Float.ofScientific 1 false 308) (e + 308)

def Gathered.toDouble (g : Gathered) (negative : Bool) : Option Binary64 :=
  (scaleUp 8 (UInt64.ofNat g.significand).toFloat g.exponent).map fun f =>
    Binary64.ofFloat (if negative then -f else f)

def finish (g : Gathered) (negative : Bool) (c : Cursor) : Except ReadError (Json × Cursor) :=
  match g.toDouble negative with
  | some x => .ok (.real x, c)
  | none => .error { fault := .numberOutOfRange, pos := c.pos }

/-- How many digits of an exponent fit 31 bits, and their value. -/
def gatherExponent (n taken : Nat) : List Nat → Nat × Nat × Bool
  | [] => (n, taken, true)
  | d :: ds =>
    if n * 10 + d < 2147483648 then gatherExponent (n * 10 + d) (taken + 1) ds
    else (n, taken + 1, false)

def readExponent (g : Gathered) (negative : Bool) (c : Cursor) : Except ReadError (Json × Cursor) :=
  let c := c.next
  let minus := c.peek == some '-'
  let c := if minus || c.peek == some '+' then c.next else c
  if c.atEnd then .error { fault := .endInValue, pos := c.pos }
  else if c.digit?.isNone then .error { fault := .invalidNumber, pos := c.ahead }
  else
    let (digits, after) := c.takeDigits
    let (n, taken, all) := gatherExponent 0 0 digits
    if all then
      let e := if minus then g.exponent - n else g.exponent + n
      finish ⟨g.significand, max (-2147483648) (min 2147483647 e)⟩ negative after
    else if g.significand ≠ 0 && !minus then
      .error { fault := .numberOutOfRange, pos := ⟨c.pos.line, c.pos.column + taken⟩ }
    else .ok (.real (Binary64.ofFloat (if negative then -0.0 else 0.0)), after)

def readFraction (g : Gathered) (negative : Bool) (c : Cursor) : Except ReadError (Json × Cursor) :=
  let c := c.next
  let (digits, after) := c.takeDigits
  if digits.isEmpty then
    .error { fault := if after.atEnd then .endInValue else .invalidNumber, pos := after.ahead }
  else
    let g := g.fraction digits
    if after.peek == some 'e' || after.peek == some 'E' then readExponent g negative after
    else finish g negative after

def integer (negative : Bool) (n : Nat) : Json :=
  if !negative then .int n
  else if n = 0 then .real (Binary64.ofFloat (-0.0))
  else if n ≤ 9223372036854775808 then .int (-(n : Int))
  else .real (Binary64.ofFloat (-(UInt64.ofNat n).toFloat))

def readNumber (negative : Bool) (c : Cursor) : Except ReadError (Json × Cursor) :=
  if c.digit?.isNone then .error { fault := .invalidNumber, pos := c.ahead }
  else if c.digit? = some 0 && c.next.digit?.isSome then
    .error { fault := .invalidNumber, pos := c.next.ahead }
  else
    let (digits, after) := c.takeDigits
    let (n, dropped) := gatherDigits 0 digits
    if after.peek == some '.' then readFraction ⟨n, dropped⟩ negative after
    else if after.peek == some 'e' || after.peek == some 'E' then
      readExponent ⟨n, dropped⟩ negative after
    else if dropped = 0 then .ok (integer negative n, after)
    else finish ⟨n, dropped⟩ negative after

def skipNumber (c : Cursor) : Except ReadError Cursor :=
  if c.digit?.isNone then .error { fault := .invalidNumber, pos := c.ahead }
  else if c.digit? = some 0 && c.next.digit?.isSome then
    .error { fault := .invalidNumber, pos := c.next.ahead }
  else
    let (_, after) := c.takeDigits
    let pastPoint : Except ReadError Cursor :=
      if after.peek == some '.' then
        let (digits, later) := after.next.takeDigits
        if digits.isEmpty then .error { fault := .invalidNumber, pos := later.ahead } else .ok later
      else .ok after
    match pastPoint with
    | .error e => .error e
    | .ok c =>
      if c.peek == some 'e' || c.peek == some 'E' then
        let c := c.next
        let c := if c.peek == some '-' || c.peek == some '+' then c.next else c
        if c.digit?.isNone then .error { fault := .invalidNumber, pos := c.ahead }
        else .ok c.takeDigits.2
      else .ok c

end EndpointGate.Json
