import EndpointGate.Json.ReadError

/-! String literals in JSON text. Octets that are no text are reported once the literal is closed, at
the first of them. -/

namespace EndpointGate.Json

open Text (Glyph)

def hexValue? (g : Glyph) : Option Nat :=
  match g with
  | .char x =>
    if x.isDigit then some (x.toNat - 48)
    else if 'a' ≤ x && x ≤ 'f' then some (x.toNat - 87)
    else if 'A' ≤ x && x ≤ 'F' then some (x.toNat - 55)
    else none
  | .stray _ => none

def readHex (c : Cursor) : Except ReadError (Nat × Cursor) :=
  let fail := fun (_ : Unit) => match Cursor.octetsAhead 4 c.pos c.rest with
    | some pos => .error { fault := .invalidEscape, pos }
    | none => .error { fault := .endInString, pos := Cursor.endFrom c.pos c.rest }
  match c.rest with
  | g₁ :: g₂ :: g₃ :: g₄ :: rest =>
    match hexValue? g₁, hexValue? g₂, hexValue? g₃, hexValue? g₄ with
    | some a, some b, some x, some y =>
      .ok (((a * 16 + b) * 16 + x) * 16 + y, ⟨rest, ⟨c.pos.line, c.pos.column + 4⟩⟩)
    | _, _, _, _ => fail ()
  | _ => fail ()

def expectInEscape (x : Char) (c : Cursor) : Except ReadError Cursor :=
  if c.atEnd then .error { fault := .endInString, pos := c.pos }
  else if c.peek = some x then .ok c.next
  else .error { fault := .hexEscapeCut, pos := c.ahead }

def readUnicodeEscape (c : Cursor) : Except ReadError (Char × Cursor) := do
  let (n, c) ← readHex c
  if 0xDC00 ≤ n ∧ n ≤ 0xDFFF then throw { fault := .loneSurrogate, pos := c.pos }
  if n < 0xD800 ∨ 0xDBFF < n then return (Char.ofNat n, c)
  let c ← expectInEscape '\\' c
  let c ← expectInEscape 'u' c
  let (low, c) ← readHex c
  if low < 0xDC00 ∨ 0xDFFF < low then throw { fault := .loneSurrogate, pos := c.pos }
  return (Char.ofNat ((n - 0xD800) * 1024 + (low - 0xDC00) + 0x10000), c)

def plainEscape? : Char → Option Char
  | '"' => some '"'
  | '\\' => some '\\'
  | '/' => some '/'
  | 'b' => some (Char.ofNat 8)
  | 'f' => some (Char.ofNat 12)
  | 'n' => some '\n'
  | 'r' => some '\r'
  | 't' => some '\t'
  | _ => none

def readEscape (c : Cursor) : Except ReadError (Char × Cursor) :=
  if c.atEnd then .error { fault := .endInString, pos := c.pos }
  else match c.peek with
    | some 'u' => readUnicodeEscape c.next
    | some x => match plainEscape? x with
      | some y => .ok (y, c.next)
      | none => .error { fault := .invalidEscape, pos := c.ahead }
    | none => .error { fault := .invalidEscape, pos := c.ahead }

/-- The rest of a literal. `done` holds the characters read, the last first; `broken` where the first
octet that is no text stood. -/
def readStringFrom : Nat → List Char → Option Position → Cursor → Except ReadError (String × Cursor)
  | 0, _, _, c => .error { fault := .endInString, pos := c.pos }
  | fuel + 1, done, broken, c =>
    match c.rest with
    | [] => .error { fault := .endInString, pos := c.pos }
    | .stray _ :: _ => readStringFrom fuel done (broken.or (some c.ahead)) c.next
    | .char x :: _ =>
      if x = '"' then
        match broken with
        | some pos => .error { fault := .invalidCodePoint, pos }
        | none => .ok (String.ofList done.reverse, c.next)
      else if x = '\\' then
        match readEscape c.next with
        | .ok (y, c) => readStringFrom fuel (y :: done) broken c
        | .error e => .error e
      else if x.toNat < 0x20 then .error { fault := .controlInString, pos := c.ahead }
      else readStringFrom fuel (x :: done) broken c.next

def readString (fuel : Nat) (c : Cursor) : Except ReadError (String × Cursor) :=
  readStringFrom fuel [] none c

def skipString : Nat → Cursor → Except ReadError Cursor
  | 0, c => .error { fault := .endInString, pos := c.pos }
  | fuel + 1, c =>
    match c.rest with
    | [] => .error { fault := .endInString, pos := c.pos }
    | .stray _ :: _ => skipString fuel c.next
    | .char x :: _ =>
      if x = '"' then .ok c.next
      else if x = '\\' then
        let c := c.next
        if c.atEnd then .error { fault := .endInString, pos := c.pos }
        else if c.peek = some 'u' then
          match readHex c.next with
          | .ok (_, c) => skipString fuel c
          | .error e => .error e
        else if (c.peek.bind plainEscape?).isSome then skipString fuel c.next
        else .error { fault := .invalidEscape, pos := c.ahead }
      else if x.toNat < 0x20 then .error { fault := .controlInString, pos := c.pos }
      else skipString fuel c.next

end EndpointGate.Json
