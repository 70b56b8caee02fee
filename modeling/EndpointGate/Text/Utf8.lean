/-! Octets as text. A reader of octets sees *glyphs*: whole characters, or single octets that belong
to none. Showing such octets as text puts one replacement character for each maximal piece of a
character. -/

namespace EndpointGate.Text

inductive Glyph
  | char (c : Char)
  | stray (octet : UInt8)
  deriving DecidableEq, Repr

def Glyph.width : Glyph → Nat
  | .char c => c.utf8Size
  | .stray _ => 1

def glyphsOf (s : String) : List Glyph := s.toList.map .char

/-- A character part way through: the octets so far, the last one first, how many are still owed,
the bounds of the next one, and the bits collected. -/
structure Partial where
  seen : List UInt8
  owed : Nat
  low : Nat
  high : Nat
  bits : Nat

inductive Start
  | whole (c : Char)
  | part (p : Partial)
  | bad

def startAt (b : UInt8) : Start :=
  let n := b.toNat
  if n < 0x80 then .whole (Char.ofNat n)
  else if n < 0xC2 then .bad
  else if n < 0xE0 then .part ⟨[b], 1, 0x80, 0xBF, n - 0xC0⟩
  else if n = 0xE0 then .part ⟨[b], 2, 0xA0, 0xBF, 0⟩
  else if n = 0xED then .part ⟨[b], 2, 0x80, 0x9F, 13⟩
  else if n < 0xF0 then .part ⟨[b], 2, 0x80, 0xBF, n - 0xE0⟩
  else if n = 0xF0 then .part ⟨[b], 3, 0x90, 0xBF, 0⟩
  else if n < 0xF4 then .part ⟨[b], 3, 0x80, 0xBF, n - 0xF0⟩
  else if n = 0xF4 then .part ⟨[b], 3, 0x80, 0x8F, 4⟩
  else .bad

def Partial.push (p : Partial) (b : UInt8) : Start :=
  if p.low ≤ b.toNat && b.toNat ≤ p.high then
    let bits := p.bits * 64 + (b.toNat - 0x80)
    if p.owed ≤ 1 then .whole (Char.ofNat bits)
    else .part ⟨b :: p.seen, p.owed - 1, 0x80, 0xBF, bits⟩
  else .bad

/-- A maximal piece of an octet stream: a character, or octets that start none that is completed. -/
inductive Chunk
  | whole (c : Char)
  | broken (octets : List UInt8)
  deriving DecidableEq, Repr

/-- Cuts octets into chunks, from `p` on if a character is under way; `done` holds the chunks found
so far, the last one first. -/
def chunksFrom (done : List Chunk) : Option Partial → List UInt8 → List Chunk
  | none, [] => done.reverse
  | some p, [] => (.broken p.seen.reverse :: done).reverse
  | none, b :: r =>
    match startAt b with
    | .whole c => chunksFrom (.whole c :: done) none r
    | .part p => chunksFrom done (some p) r
    | .bad => chunksFrom (.broken [b] :: done) none r
  | some p, b :: r =>
    match p.push b with
    | .whole c => chunksFrom (.whole c :: done) none r
    | .part q => chunksFrom done (some q) r
    | .bad =>
      let done := .broken p.seen.reverse :: done
      match startAt b with
      | .whole c => chunksFrom (.whole c :: done) none r
      | .part q => chunksFrom done (some q) r
      | .bad => chunksFrom (.broken [b] :: done) none r

def chunks (b : ByteArray) : List Chunk := chunksFrom [] none b.data.toList

def Chunk.glyphs : Chunk → List Glyph
  | .whole c => [.char c]
  | .broken octets => octets.map .stray

def Chunk.shown : Chunk → Char
  | .whole c => c
  | .broken _ => '\uFFFD'

def glyphs (b : ByteArray) : List Glyph :=
  match String.fromUTF8? b with
  | some s => glyphsOf s
  | none => (chunks b).flatMap Chunk.glyphs

def shown (b : ByteArray) : String :=
  match String.fromUTF8? b with
  | some s => s
  | none => String.ofList ((chunks b).map Chunk.shown)

theorem fromUTF8?_toUTF8 (s : String) : String.fromUTF8? s.toUTF8 = some s := by
  have valid : s.toUTF8.IsValidUTF8 := s.isValidUTF8
  unfold String.fromUTF8?
  exact dif_pos valid

theorem shown_toUTF8 (s : String) : shown s.toUTF8 = s := by
  unfold shown
  rw [fromUTF8?_toUTF8]

theorem glyphs_toUTF8 (s : String) : glyphs s.toUTF8 = glyphsOf s := by
  unfold glyphs
  rw [fromUTF8?_toUTF8]

end EndpointGate.Text
