import EndpointGate.Sql.Failure
import EndpointGate.Sql.Token

/-! The parameters of a statement. Each name has one slot, wherever it occurs; a bare `?` has a slot of
its own, and `?` with a number has that one. -/

namespace EndpointGate.Sql

structure Parameters where
  names : List (Option String) := []
  /-- The slot of each parameter, by the number of characters before it. -/
  slots : List (Nat × Nat) := []
  deriving DecidableEq, Repr

namespace Parameters

def greatestSlot : Nat := 32766

def count (p : Parameters) : Nat := p.names.length

def slot? (p : Parameters) (name : String) : Option Nat :=
  p.names.findIdx? (· == some name)

def slotAt (p : Parameters) (offset : Nat) : Nat :=
  ((p.slots.find? (·.1 == offset)).map (·.2)).getD 0

def nameSlot (names : List (Option String)) (slot : Nat) (name : String) : List (Option String) :=
  let names := names ++ List.replicate (slot + 1 - names.length) none
  if (names.getD slot none).isSome then names else names.set slot (some name)

def add (p : Parameters) (offset : Nat) (name : String) : Except Failure Parameters :=
  match name.toList with
  | ['?'] => .ok ⟨p.names ++ [none], (offset, p.count) :: p.slots⟩
  | '?' :: digits =>
    let n := Token.digitsValue digits
    if n = 0 || greatestSlot < n then .error (.badParameter name)
    else .ok ⟨nameSlot p.names (n - 1) name, (offset, n - 1) :: p.slots⟩
  | _ =>
    match p.slot? name with
    | some slot => .ok { p with slots := (offset, slot) :: p.slots }
    | none => .ok ⟨p.names ++ [some name], (offset, p.count) :: p.slots⟩

def ofLexemes (p : Parameters) : List Lexeme → Except Failure Parameters
  | [] => .ok p
  | ⟨.parameter name, offset⟩ :: rest => (p.add offset name).bind fun p => p.ofLexemes rest
  | _ :: rest => p.ofLexemes rest

def ofSource (s : Source) : Except Failure Parameters := ofLexemes {} s.lexemes

end Parameters

end EndpointGate.Sql
