import EndpointGate.Number.Notation
import EndpointGate.Sql.Numeral
import EndpointGate.Text.Blank

/-! The affinity of a column: what is done to a value that is put there or compared with it. -/

namespace EndpointGate.Sql

inductive Affinity
  | blob
  | text
  | numeric
  | integer
  | real
  deriving DecidableEq, Repr

namespace Value

def ofReal (x : Binary64) : Value := if x.isNaN then .null else .real x

def octets : Value → ByteArray
  | .null => .empty
  | .integer n => (toString n).toUTF8
  | .real x => x.sqlText.toUTF8
  | .text octets | .blob octets => octets

def integral (x : Binary64) : Value :=
  let n := x.truncate
  if x.isIntegral && leastInteger < n && n < greatestInteger then .integer n else .real x

def numeral : Value → Value
  | .text octets =>
    let n := Numeral.read octets.data.toList
    if n.entire then n.toValue else .text octets
  | v => v

def number : Value → Value
  | .null => .null
  | .integer n => .integer n
  | .real x => .real x
  | .text octets | .blob octets => (Numeral.read octets.data.toList).toValue

def toReal (v : Value) : Binary64 :=
  match v.number with
  | .integer n => .ofInt n
  | .real x => x
  | _ => .ofInt 0

def truth : Value → Option Bool
  | .null => none
  | .integer n => some (n != 0)
  | v => some !v.toReal.isZero

def ofBool (b : Bool) : Value := .integer (if b then 1 else 0)

def ofTruth : Option Bool → Value
  | none => .null
  | some b => ofBool b

end Value

namespace Affinity

def isNumeric : Affinity → Bool
  | .numeric | .integer | .real => true
  | .blob | .text => false

def occursIn (piece : List Char) : List Char → Bool
  | [] => piece.isEmpty
  | c :: rest => piece.isPrefixOf (c :: rest) || occursIn piece rest

def ofType (name : String) : Affinity :=
  let letters := (Text.upperAscii name).toList
  let has := fun (piece : String) => occursIn piece.toList letters
  if has "INT" then .integer
  else if has "CHAR" || has "CLOB" || has "TEXT" then .text
  else if has "BLOB" || letters.isEmpty then .blob
  else if has "REAL" || has "FLOA" || has "DOUB" then .real
  else .numeric

/-- A value as it is kept in a column: numbers are texts in a text column, and texts that are numbers
are numbers in a numeric one. -/
def store : Affinity → Value → Value
  | .blob, v => v
  | .text, .integer n => .text (Value.octets (.integer n))
  | .text, .real x => .text (Value.octets (.real x))
  | .text, v => v
  | .numeric, v | .integer, v =>
    match v.numeral with
    | .real x => Value.integral x
    | v => v
  | .real, v =>
    match v.numeral with
    | .integer n => .real (.ofInt n)
    | .real x => .real (if x.isZero then .ofInt 0 else x)
    | v => v

def clamp (n : Int) : Int := max Value.leastInteger (min Value.greatestInteger n)

def clamped (x : Binary64) : Int :=
  if x.isNaN then 0
  else if !x.isFinite then (if x.negative then Value.leastInteger else Value.greatestInteger)
  else clamp x.truncate

def cast : Affinity → Value → Value
  | _, .null => .null
  | .blob, v => .blob v.octets
  | .text, v => .text v.octets
  | .integer, .integer n => .integer n
  | .integer, .real x => .integer (clamped x)
  | .integer, v => .integer (clamp (Numeral.wholePart v.octets.data.toList))
  | .real, v => .real v.toReal
  | .numeric, v =>
    match v with
    | .integer n => .integer n
    | .real x => .real x
    | v =>
      match v.number with
      | .real x => Value.integral x
      | v => v

/-- What is done to both sides of a comparison of operands with these affinities; an operand that is
no column has none. -/
def forComparison : Option Affinity → Option Affinity → Affinity
  | some a, some b => if a.isNumeric || b.isNumeric then .numeric else .blob
  | some a, none | none, some a => a
  | none, none => .blob

def prepare : Affinity → Value → Value
  | .blob, v => v
  | .text, v => store .text v
  | _, v => v.numeral

end Affinity

end EndpointGate.Sql
