import EndpointGate.Json.NumberReader
import EndpointGate.Json.Shape
import EndpointGate.Json.StringReader

/-! Reads words, numbers and strings, and tells from the next character which kind of value follows. -/

namespace EndpointGate.Json

def readWord : List Char → Cursor → Except ReadError Cursor
  | [], c => .ok c
  | x :: xs, c =>
    if c.atEnd then .error { fault := .endInValue, pos := c.pos }
    else if c.peek = some x then readWord xs c.next
    else .error { fault := .expectedIdent, pos := c.ahead }

inductive Lead
  | word (rest : List Char) (value : Json)
  | number (negative : Bool)
  | string
  | list
  | object
  | other
  deriving Repr

def lead (c : Cursor) : Lead :=
  match c.peek with
  | some 'n' => .word ['u', 'l', 'l'] .null
  | some 't' => .word ['r', 'u', 'e'] (.bool true)
  | some 'f' => .word ['a', 'l', 's', 'e'] (.bool false)
  | some '-' => .number true
  | some '"' => .string
  | some '[' => .list
  | some '\x7b' => .object
  | some x => if x.isDigit then .number false else .other
  | none => .other

def found : Json → Found
  | .null => .null
  | .bool b => .bool b
  | .int n => .int n
  | .real x => .real x
  | .str s => .str s
  | .arr _ => .sequence
  | .obj _ => .map

def Shape.accept (shape : Shape) (value : Json) : Except Fault Json :=
  match shape, value with
  | .any, v => .ok v
  | .unit, .null => .ok .null
  | .text _, .str s => .ok (.str s)
  | .natural wanted limit, .int n =>
    if 0 ≤ n ∧ n < limit then .ok (.int n) else .error (.wrongValue (.int n) wanted)
  | shape, v => .error (.wrongType (found v) shape.wanted)

def readScalar (fuel : Nat) (shape : Shape) (c : Cursor) : Except ReadError (Json × Cursor) := do
  let (value, after) ← match lead c with
    | .word rest value => do pure (value, ← readWord rest c.next)
    | .number true => readNumber true c.next
    | .number false => readNumber false c
    | .string => do
      let (s, after) ← readString fuel c.next
      pure (.str s, after)
    | _ => throw { fault := .expectedValue, pos := c.ahead }
  match shape.accept value with
  | .ok v => pure (v, after)
  | .error fault => throw { fault, pos := after.pos }

end EndpointGate.Json
