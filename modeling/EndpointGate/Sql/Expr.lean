import EndpointGate.Sql.Affinity
import EndpointGate.Sql.Order

/-! Expressions over the columns of one row. How a column is named is a parameter: a statement is read
with the names as they are written, and runs with the places that they stand for. -/

namespace EndpointGate.Sql

inductive BinaryOp
  | or
  | and
  | eq
  | ne
  | lt
  | le
  | gt
  | ge
  | is
  | isNot
  | add
  | sub
  | concat
  deriving DecidableEq, Repr

inductive Expr (ρ : Type)
  | literal (v : Value)
  | parameter (slot : Nat)
  | column (r : ρ)
  | negated (e : Expr ρ)
  | unchanged (e : Expr ρ)
  | not (e : Expr ρ)
  | binary (op : BinaryOp) (a b : Expr ρ)
  | cast (target : Affinity) (e : Expr ρ)
  | typeOf (e : Expr ρ)
  | rowCount
  deriving Inhabited, DecidableEq

structure Place where
  column : Option Nat
  affinity : Affinity
  deriving DecidableEq, Repr

structure Scope where
  rowid : Value := .null
  cells : List Value := []
  parameters : Nat → Value := fun _ => .null
  rowCount : Nat := 0

namespace Expr

variable {ρ : Type}

def counts : Expr ρ → Bool
  | .rowCount => true
  | .literal _ | .parameter _ | .column _ => false
  | .negated e | .unchanged e | .not e | .cast _ e | .typeOf e => e.counts
  | .binary _ a b => a.counts || b.counts

def hasParameter : Expr ρ → Bool
  | .parameter _ => true
  | .literal _ | .rowCount | .column _ => false
  | .negated e | .unchanged e | .not e | .cast _ e | .typeOf e => e.hasParameter
  | .binary _ a b => a.hasParameter || b.hasParameter

def isFixed : Expr ρ → Bool
  | .column _ | .rowCount => false
  | .literal _ | .parameter _ => true
  | .negated e | .unchanged e | .not e | .cast _ e | .typeOf e => e.isFixed
  | .binary _ a b => a.isFixed && b.isFixed

def columns : Expr Place → List Nat
  | .column p => p.column.toList
  | .literal _ | .parameter _ | .rowCount => []
  | .negated e | .unchanged e | .not e | .cast _ e | .typeOf e => e.columns
  | .binary _ a b => a.columns ++ b.columns

def affinity? : Expr Place → Option Affinity
  | .column p => some p.affinity
  | .cast target _ => some target
  | _ => none

def conjuncts : Expr ρ → List (Expr ρ)
  | .binary .and a b => a.conjuncts ++ b.conjuncts
  | e => [e]

def disjuncts : Expr ρ → List (Expr ρ)
  | .binary .or a b => a.disjuncts ++ b.disjuncts
  | e => [e]

end Expr

namespace Value

def negate : Value → Value
  | .null => .null
  | v => match v.number with
    | .integer n => if isInt64 (-n) then .integer (-n) else .real (.ofInt (-n))
    | .real x => if x.isZero then .real (.ofInt 0) else .real x.neg
    | v => v

def arithmetic (onInt : Int → Int → Int) (onReal : Float → Float → Float) (a b : Value) : Value :=
  match a.number, b.number with
  | .null, _ | _, .null => .null
  | .integer m, .integer n =>
    if isInt64 (onInt m n) then .integer (onInt m n)
    else ofReal (.ofFloat (onReal (Binary64.ofInt m).toFloat (Binary64.ofInt n).toFloat))
  | _, _ => ofReal (.ofFloat (onReal a.toReal.toFloat b.toReal.toFloat))

def concat : Value → Value → Value
  | .null, _ | _, .null => .null
  | a, b => .text (a.octets ++ b.octets)

def compareWith (holds : Ordering → Bool) (a b : Value) : Value :=
  match a, b with
  | .null, _ | _, .null => .null
  | a, b => ofBool (holds (a.order b))

def conj (a b : Option Bool) : Option Bool :=
  match a, b with
  | some false, _ | _, some false => some false
  | some true, some true => some true
  | _, _ => none

def disj (a b : Option Bool) : Option Bool :=
  match a, b with
  | some true, _ | _, some true => some true
  | some false, some false => some false
  | _, _ => none

end Value

def BinaryOp.apply : BinaryOp → Value → Value → Value
  | .or, a, b => .ofTruth (Value.disj a.truth b.truth)
  | .and, a, b => .ofTruth (Value.conj a.truth b.truth)
  | .eq, a, b => Value.compareWith (· == .eq) a b
  | .ne, a, b => Value.compareWith (· != .eq) a b
  | .lt, a, b => Value.compareWith (· == .lt) a b
  | .le, a, b => Value.compareWith (· != .gt) a b
  | .gt, a, b => Value.compareWith (· == .gt) a b
  | .ge, a, b => Value.compareWith (· != .lt) a b
  | .is, a, b => .ofBool (a.same b)
  | .isNot, a, b => .ofBool (!a.same b)
  | .add, a, b => Value.arithmetic (· + ·) (· + ·) a b
  | .sub, a, b => Value.arithmetic (· - ·) (· - ·) a b
  | .concat, a, b => Value.concat a b

def BinaryOp.isComparison : BinaryOp → Bool
  | .eq | .ne | .lt | .le | .gt | .ge | .is | .isNot => true
  | _ => false

namespace Expr

def eval (s : Scope) : Expr Place → Value
  | .literal v => v
  | .parameter slot => s.parameters slot
  | .column p => match p.column with
    | none => s.rowid
    | some i => s.cells.getD i .null
  | .negated e => (e.eval s).negate
  | .unchanged e => e.eval s
  | .not e => .ofTruth ((e.eval s).truth.map (!·))
  | .binary op a b =>
    if op.isComparison then
      let common := Affinity.forComparison a.affinity? b.affinity?
      op.apply (common.prepare (a.eval s)) (common.prepare (b.eval s))
    else op.apply (a.eval s) (b.eval s)
  | .cast target e => target.cast (e.eval s)
  | .typeOf e => .ofString (e.eval s).typeName
  | .rowCount => .integer s.rowCount

def holds (s : Scope) (e : Expr Place) : Bool := (e.eval s).truth == some true

end Expr

end EndpointGate.Sql
