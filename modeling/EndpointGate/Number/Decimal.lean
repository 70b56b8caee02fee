import EndpointGate.Number.Binary64

/-! Decimal digits of a double: the fewest that read back as it, or a given number of them. A decimal
is `digits · 10 ^ exponent`. -/

namespace EndpointGate

structure Decimal where
  digits : Nat
  exponent : Int
  deriving DecidableEq, Repr

namespace Decimal

def lengthUpTo : Nat → Nat → Nat
  | 0, _ => 0
  | fuel + 1, n => if n = 0 then 0 else 1 + lengthUpTo fuel (n / 10)

def length (n : Nat) : Nat := lengthUpTo (n.log2 + 1) n

/-- The place of the first digit of `num / den`: the `k` with `10 ^ (k - 1) ≤ num / den < 10 ^ k`. -/
def place (num den : Nat) : Int :=
  if den ≤ num then length (num / den)
  else
    let j := length den - length num
    if den ≤ num * Nat.pow 10 j then 1 - (j : Int) else -(j : Int)

def inUnits (num den : Nat) : Int → Nat × Nat
  | .ofNat e => (num, den * Nat.pow 10 e)
  | .negSucc e => (num * Nat.pow 10 (e + 1), den)

/-- The reals that round to a double, as numerators over `den`, with the double itself. -/
structure Interval where
  low : Nat
  value : Nat
  high : Nat
  den : Nat
  closed : Bool

def Interval.ofBinary64 (x : Binary64) : Interval :=
  let m := x.significand
  let below := if x.fraction = 0 ∧ 1 < x.biasedExponent then 1 else 2
  let (up, den) : Nat × Nat := match x.scale - 2 with
    | .ofNat e => (Nat.pow 2 e, 1)
    | .negSucc e => (1, Nat.pow 2 (e + 1))
  ⟨(4 * m - below) * up, 4 * m * up, (4 * m + 2) * up, den, m % 2 == 0⟩

def Interval.holds (i : Interval) (d : Nat) (e : Int) : Bool :=
  let (low, unit) := inUnits i.low i.den e
  let (high, _) := inUnits i.high i.den e
  let at_ := d * unit
  if i.closed then low ≤ at_ && at_ ≤ high else low < at_ && at_ < high

def Interval.pick (i : Interval) (e : Int) : Option Nat :=
  let (num, unit) := inUnits i.value i.den e
  let d := num / unit
  let rest := num % unit
  match i.holds d e, i.holds (d + 1) e with
  | true, false => some d
  | false, true => some (d + 1)
  | true, true =>
    some (if 2 * rest < unit ∨ (2 * rest = unit ∧ d % 2 = 0) then d else d + 1)
  | false, false => none

def Interval.search (i : Interval) (place : Int) : Nat → Nat → Decimal
  | 0, _ => ⟨0, 0⟩
  | fuel + 1, n =>
    match i.pick (place - n) with
    | some d => ⟨d, place - n⟩
    | none => i.search place fuel (n + 1)

def strip : Nat → Decimal → Decimal
  | 0, d => d
  | fuel + 1, d =>
    if d.digits ≠ 0 ∧ d.digits % 10 = 0 then strip fuel ⟨d.digits / 10, d.exponent + 1⟩ else d

def shortest (x : Binary64) : Decimal :=
  if x.isZero then ⟨0, 0⟩
  else
    let i := Interval.ofBinary64 x
    strip 20 (i.search (place i.value i.den) 17 1)

def rounded (n : Nat) (x : Binary64) : Decimal :=
  if x.isZero then ⟨0, 0⟩
  else
    let i := Interval.ofBinary64 x
    let e := place i.value i.den - n
    let (num, unit) := inUnits i.value i.den e
    strip 20 ⟨(2 * num + unit) / (2 * unit), e⟩

end Decimal

end EndpointGate
