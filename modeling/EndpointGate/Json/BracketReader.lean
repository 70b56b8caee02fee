import EndpointGate.Json.StringReader

/-! Reads what stands between the values of lists and objects: brackets, commas, keys and colons. -/

namespace EndpointGate.Json

def nextItem (first : Bool) (c : Cursor) : Except ReadError (Option Cursor) :=
  let c := c.skipSpace
  if c.atEnd then .error { fault := .endInList, pos := c.pos }
  else if c.peek = some ']' then .ok none
  else if first then .ok (some c)
  else if c.peek = some ',' then
    let c := c.next.skipSpace
    if c.atEnd then .error { fault := .endInValue, pos := c.pos }
    else if c.peek = some ']' then .error { fault := .trailingComma, pos := c.ahead }
    else .ok (some c)
  else .error { fault := .expectedListComma, pos := c.ahead }

def nextKey (first : Bool) (c : Cursor) : Except ReadError (Option Cursor) :=
  let c := c.skipSpace
  if c.atEnd then .error { fault := .endInObject, pos := c.pos }
  else if c.peek = some '\x7d' then .ok none
  else if first then
    if c.peek = some '"' then .ok (some c.next)
    else .error { fault := .keyNotString, pos := c.ahead }
  else if c.peek = some ',' then
    let c := c.next.skipSpace
    if c.atEnd then .error { fault := .endInValue, pos := c.pos }
    else if c.peek = some '"' then .ok (some c.next)
    else if c.peek = some '\x7d' then .error { fault := .trailingComma, pos := c.ahead }
    else .error { fault := .keyNotString, pos := c.ahead }
  else .error { fault := .expectedObjectComma, pos := c.ahead }

def readColon (c : Cursor) : Except ReadError Cursor :=
  let c := c.skipSpace
  if c.atEnd then .error { fault := .endInObject, pos := c.pos }
  else if c.peek = some ':' then .ok c.next
  else .error { fault := .expectedColon, pos := c.ahead }

def readKey (fuel : Nat) (first : Bool) (c : Cursor) :
    Except ReadError (Option (String × Cursor)) := do
  match nextKey first c with
  | .error e => throw (e.under .unnamed)
  | .ok none => return none
  | .ok (some c) =>
    match readString fuel c with
    | .error e => throw (e.under .unnamed)
    | .ok (key, c) => return some (key, c)

def closeList (c : Cursor) : Except ReadError Cursor :=
  let c := c.skipSpace
  if c.atEnd then .error { fault := .endInList, pos := c.pos }
  else if c.peek = some ']' then .ok c.next
  else if c.peek = some ',' then
    let c := c.next.skipSpace
    if c.peek = some ']' then .error { fault := .trailingComma, pos := c.ahead }
    else .error { fault := .trailingCharacters, pos := c.ahead }
  else .error { fault := .trailingCharacters, pos := c.ahead }

/-- Where a complaint about a record's members points: past blanks and a closing brace. -/
def afterMembers (c : Cursor) : Position :=
  let c := c.skipSpace
  if c.peek = some '\x7d' then c.next.pos else c.pos

end EndpointGate.Json
