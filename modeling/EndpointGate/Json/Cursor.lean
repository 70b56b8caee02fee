import EndpointGate.Text.Utf8

/-! A place in JSON text. Columns count the octets passed since the last line end; lines count from
one. -/

namespace EndpointGate.Json

open Text (Glyph)

structure Position where
  line : Nat
  column : Nat
  deriving DecidableEq, Repr

structure Cursor where
  rest : List Glyph
  pos : Position
  deriving Repr

def Position.pass (p : Position) (g : Glyph) : Position :=
  if g = .char '\n' then ⟨p.line + 1, 0⟩ else ⟨p.line, p.column + g.width⟩

def Position.enter (p : Position) (g : Glyph) : Position :=
  if g = .char '\n' then ⟨p.line + 1, 0⟩ else ⟨p.line, p.column + 1⟩

namespace Cursor

def start (text : List Glyph) : Cursor := ⟨text, ⟨1, 0⟩⟩

def peek (c : Cursor) : Option Char :=
  match c.rest with
  | .char x :: _ => some x
  | _ => none

def atEnd (c : Cursor) : Bool := c.rest.isEmpty

def next (c : Cursor) : Cursor :=
  match c.rest with
  | [] => c
  | g :: rest => ⟨rest, c.pos.pass g⟩

/-- Where a complaint about the next glyph points. -/
def ahead (c : Cursor) : Position :=
  match c.rest with
  | [] => c.pos
  | g :: _ => c.pos.enter g

def isSpace (g : Glyph) : Bool :=
  g = .char ' ' || g = .char '\n' || g = .char '\t' || g = .char '\r'

def skipSpaceFrom (pos : Position) : List Glyph → Cursor
  | [] => ⟨[], pos⟩
  | g :: rest => if isSpace g then skipSpaceFrom (pos.pass g) rest else ⟨g :: rest, pos⟩

def skipSpace (c : Cursor) : Cursor := skipSpaceFrom c.pos c.rest

def digit? (c : Cursor) : Option Nat :=
  match c.rest with
  | .char x :: _ => if x.isDigit then some (x.toNat - 48) else none
  | _ => none

def takeDigitsFrom (column : Nat) (line : Nat) (done : List Nat) : List Glyph → List Nat × Cursor
  | .char x :: rest =>
    if x.isDigit then takeDigitsFrom (column + 1) line ((x.toNat - 48) :: done) rest
    else (done.reverse, ⟨.char x :: rest, ⟨line, column⟩⟩)
  | rest => (done.reverse, ⟨rest, ⟨line, column⟩⟩)

def takeDigits (c : Cursor) : List Nat × Cursor :=
  takeDigitsFrom c.pos.column c.pos.line [] c.rest

def octetsAhead : Nat → Position → List Glyph → Option Position
  | 0, pos, _ => some pos
  | _ + 1, _, [] => none
  | n + 1, pos, g :: rest =>
    if g.width ≤ n + 1 then octetsAhead (n + 1 - g.width) (pos.pass g) rest
    else some ⟨pos.line, pos.column + n + 1⟩
termination_by _ _ rest => rest.length

def endFrom (pos : Position) : List Glyph → Position
  | [] => pos
  | g :: rest => endFrom (pos.pass g) rest

end Cursor

end EndpointGate.Json
