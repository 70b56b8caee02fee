import EndpointGate.Json.Fields
import EndpointGate.Number.Binary64

/-! JSON values. Numbers are integers of 64 bits, signed or unsigned, or doubles. -/

namespace EndpointGate

inductive Json
  | null
  | bool (b : Bool)
  | int (n : Int)
  | real (x : Binary64)
  | str (s : String)
  | arr (items : List Json)
  | obj (fields : List (String × Json))
  deriving Repr, Inhabited

abbrev Row := Fields Json

namespace Json

mutual

def beq : Json → Json → Bool
  | .null, .null => true
  | .bool a, .bool b => a == b
  | .int a, .int b => a == b
  | .real a, .real b => a == b
  | .str a, .str b => a == b
  | .arr a, .arr b => beqItems a b
  | .obj a, .obj b => beqFields a b
  | _, _ => false

def beqItems : List Json → List Json → Bool
  | [], [] => true
  | a :: as, b :: bs => beq a b && beqItems as bs
  | _, _ => false

def beqFields : List (String × Json) → List (String × Json) → Bool
  | [], [] => true
  | (k, a) :: as, (l, b) :: bs => k == l && beq a b && beqFields as bs
  | _, _ => false

end

mutual

theorem beq_iff : ∀ a b : Json, beq a b = true ↔ a = b
  | .arr a, b => by
    cases b <;> simp only [beq, Bool.false_eq_true, reduceCtorEq, Json.arr.injEq]
    exact beqItems_iff a _
  | .obj a, b => by
    cases b <;> simp only [beq, Bool.false_eq_true, reduceCtorEq, Json.obj.injEq]
    exact beqFields_iff a _
  | .null, b => by cases b <;> simp [beq]
  | .bool a, b => by cases b <;> simp [beq]
  | .int a, b => by cases b <;> simp [beq]
  | .real a, b => by cases b <;> simp [beq]
  | .str a, b => by cases b <;> simp [beq]

theorem beqItems_iff : ∀ a b : List Json, beqItems a b = true ↔ a = b
  | [], b => by cases b <;> simp [beqItems]
  | a :: as, b => by
    cases b with
    | nil => simp [beqItems]
    | cons b bs => simp [beqItems, beq_iff a b, beqItems_iff as bs]

theorem beqFields_iff : ∀ a b : List (String × Json), beqFields a b = true ↔ a = b
  | [], b => by cases b <;> simp [beqFields]
  | (k, a) :: as, b => by
    cases b with
    | nil => simp [beqFields]
    | cons p bs =>
      obtain ⟨l, b⟩ := p
      simp [beqFields, beq_iff a b, beqFields_iff as bs]

end

instance : DecidableEq Json := fun a b => decidable_of_iff _ (beq_iff a b)

def asObj? : Json → Option Row
  | .obj fields => some fields
  | _ => none

def asArr? : Json → Option (List Json)
  | .arr items => some items
  | _ => none

def asStr? : Json → Option String
  | .str s => some s
  | _ => none

def asNat? : Json → Option Nat
  | .int (.ofNat n) => some n
  | _ => none

def get? (j : Json) (key : String) : Option Json := j.asObj?.bind (Fields.get? key)

def stringOr (j : Json) (key default : String) : String :=
  ((j.get? key).bind asStr?).getD default

def naturalOr (j : Json) (key : String) (default : Nat) : Nat :=
  ((j.get? key).bind asNat?).getD default

def strings (j : Json) : List String := (j.asArr?.getD []).filterMap asStr?

def stringsOr (j : Json) (key : String) (default : List String) : List String :=
  ((j.get? key).map strings).getD default

end Json

end EndpointGate
