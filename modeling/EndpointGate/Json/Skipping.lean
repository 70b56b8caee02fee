import EndpointGate.Json.BracketReader
import EndpointGate.Json.ScalarReader

/-! Passes over a value that nobody asks for. It must be written correctly all the same, but it may be
nested as deep as it likes and its numbers may be of any size. -/

namespace EndpointGate.Json

inductive Bracket
  | list
  | object
  deriving DecidableEq, Repr

def skipToValue (fuel : Nat) (b : Bracket) (c : Cursor) : Except ReadError Cursor :=
  match b with
  | .list => .ok c
  | .object =>
    let c := c.skipSpace
    if c.atEnd then .error { fault := .endInObject, pos := c.pos }
    else if c.peek = some '"' then
      match skipString fuel c.next with
      | .ok c => readColon c
      | .error e => .error e
    else .error { fault := .keyNotString, pos := c.ahead }

mutual

def skipValue : Nat → List Bracket → Cursor → Except ReadError Cursor
  | 0, _, c => .error { fault := .endInValue, pos := c.pos }
  | fuel + 1, stack, c =>
    let c := c.skipSpace
    if c.atEnd then .error { fault := .endInValue, pos := c.pos }
    else match lead c with
      | .word rest _ => do skipRest fuel stack (← readWord rest c.next)
      | .number true => do skipRest fuel stack (← skipNumber c.next)
      | .number false => do skipRest fuel stack (← skipNumber c)
      | .string => do skipRest fuel stack (← skipString fuel c.next)
      | .list => skipOpened fuel .list stack c.next
      | .object => skipOpened fuel .object stack c.next
      | .other => .error { fault := .expectedValue, pos := c.ahead }

def skipOpened : Nat → Bracket → List Bracket → Cursor → Except ReadError Cursor
  | 0, _, _, c => .error { fault := .endInValue, pos := c.pos }
  | fuel + 1, b, stack, c =>
    let c := c.skipSpace
    if c.atEnd then
      .error { fault := if b = .list then .endInList else .endInObject, pos := c.pos }
    else if (b = .list ∧ c.peek = some ']') ∨ (b = .object ∧ c.peek = some '\x7d') then
      skipRest fuel stack c.next
    else do skipValue fuel (b :: stack) (← skipToValue fuel b c)

def skipRest : Nat → List Bracket → Cursor → Except ReadError Cursor
  | 0, _, c => .error { fault := .endInValue, pos := c.pos }
  | _ + 1, [], c => .ok c
  | fuel + 1, b :: stack, c =>
    let c := c.skipSpace
    if c.atEnd then
      .error { fault := if b = .list then .endInList else .endInObject, pos := c.pos }
    else if c.peek = some ',' then do skipValue fuel (b :: stack) (← skipToValue fuel b c.next)
    else if (b = .list ∧ c.peek = some ']') ∨ (b = .object ∧ c.peek = some '\x7d') then
      skipRest fuel stack c.next
    else
      .error { fault := if b = .list then .expectedListComma else .expectedObjectComma,
               pos := c.ahead }

end

end EndpointGate.Json
