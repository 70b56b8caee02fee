import EndpointGate.Sql.Value

/-! The order of values: null, then numbers by size, then texts and then blobs octet by octet. -/

namespace EndpointGate.Sql

def orderKey (x : Binary64) : Int :=
  let magnitude : Int := (x.bits.toNat % 9223372036854775808 : Nat)
  if x.negative then -magnitude else magnitude

def compareIntReal (n : Int) (x : Binary64) : Ordering :=
  if !x.isFinite then (if x.negative then .gt else .lt)
  else
    let s : Int := if x.negative then -(x.significand : Int) else x.significand
    match x.scale with
    | .ofNat e => compare n (s * Nat.pow 2 e)
    | .negSucc e => compare (n * Nat.pow 2 (e + 1)) s

def compareOctets : List UInt8 → List UInt8 → Ordering
  | [], [] => .eq
  | [], _ :: _ => .lt
  | _ :: _, [] => .gt
  | a :: as, b :: bs => (compare a b).then (compareOctets as bs)

namespace Value

def kindRank : Value → Nat
  | .null => 0
  | .integer _ | .real _ => 1
  | .text _ => 2
  | .blob _ => 3

def order : Value → Value → Ordering
  | .integer a, .integer b => compare a b
  | .integer a, .real b => compareIntReal a b
  | .real a, .integer b => (compareIntReal b a).swap
  | .real a, .real b => compare (orderKey a) (orderKey b)
  | .text a, .text b | .blob a, .blob b => compareOctets a.data.toList b.data.toList
  | a, b => compare a.kindRank b.kindRank

def same (a b : Value) : Bool := a.order b == .eq

end Value

end EndpointGate.Sql
