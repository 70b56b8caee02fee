import EndpointGate.Sql.Action

/-! The order in which a statement meets the rows of a table: by their numbers, or along an index where
the condition, the order asked for or the columns looked at make that the shorter way. -/

namespace EndpointGate.Sql

namespace Expr

def comparedColumn? (test : BinaryOp → Bool) : Expr Place → Option (Option Nat)
  | .binary op (.column p) b => if test op && b.isFixed then some p.column else none
  | .binary op a (.column p) => if test op && a.isFixed then some p.column else none
  | _ => none

def isEquality (op : BinaryOp) : Bool := op == .eq || op == .is

def isRange (op : BinaryOp) : Bool := op == .lt || op == .le || op == .gt || op == .ge

def presentColumn? : Expr Place → Option (Option Nat)
  | .binary .isNot (.column p) (.literal .null) => some p.column
  | _ => none

def memberColumn? (e : Expr Place) : Option (Option Nat) :=
  match e.disjuncts.map (comparedColumn? isEquality) with
  | some c :: d :: rest => if (d :: rest).all (· == some c) then some c else none
  | _ => none

end Expr

namespace Table

def compareKeys : List Value → List Value → Ordering
  | a :: as, b :: bs => (a.order b).then (compareKeys as bs)
  | _, _ => .eq

def alongIndex (t : Table) (i : Index) : List TableRow :=
  t.rows.mergeSort fun a b => compareKeys (t.keyOf i a) (t.keyOf i b) != .gt

def along (t : Table) (path : Option Index) : List TableRow := path.elim t.rows t.alongIndex

def columnWidth (c : Column) : Nat := if c.typed && !c.affinity.isNumeric then 5 else 1

def width (t : Table) : Nat :=
  (t.columns.map columnWidth).foldl (· + ·) 0 + (if t.idColumn.isNone then 1 else 0)

def indexWidth (t : Table) (i : Index) : Nat :=
  (i.columns.map fun c => ((t.columns[c]?).map columnWidth).getD 1).foldl (· + ·) 1

/-- The narrowest of the indexes that start with a column found in a part of a condition, and of those
the last one. -/
def indexFrom (t : Table) (indexes : List Index) (condition : Expr Place)
    (find : Expr Place → Option (Option Nat)) : Option Index :=
  let found := indexes.reverse.filter fun i => condition.conjuncts.any fun e =>
    (find e).any fun c => c.isSome && c == i.columns.head?
  found.find? fun i => found.all fun j => t.indexWidth i ≤ t.indexWidth j

def indexFor (t : Table) (indexes : List Index) (condition : Expr Place) : Option Index :=
  (t.indexFrom indexes condition (Expr.comparedColumn? Expr.isEquality)).or <|
    (t.indexFrom indexes condition Expr.memberColumn?).or
      (t.indexFrom indexes condition (Expr.comparedColumn? Expr.isRange))

def byNumber (condition : Expr Place) : Bool :=
  condition.conjuncts.any fun e =>
    (Expr.comparedColumn? (fun op => Expr.isEquality op || Expr.isRange op) e) == some none

def sortedBy (i : Index) (order : List SortTerm) (descending : Bool) : Bool :=
  !order.isEmpty && order.length ≤ i.columns.length
    && (order.zip i.columns).all fun (o, c) => o.descending == descending &&
      match o.key with
      | .column p => p.column == some c
      | _ => false

/-- The index that leads to the rows of a condition. One that has all columns that are looked at is
preferred to the numbers, unless one number is asked for. -/
def pathFor (t : Table) (condition : Expr Place) (used : List Nat) : Option Index :=
  let covering := t.indexes.filter fun i => used.all i.columns.contains
  if condition.conjuncts.any fun e => Expr.comparedColumn? Expr.isEquality e == some none then none
  else (t.indexFor (if byNumber condition then covering else t.indexes) condition).or
    (t.indexFrom covering condition Expr.presentColumn?)

def scan (t : Table) (condition : Expr Place) (order : List SortTerm) (used : List Nat) :
    List TableRow :=
  let path := (t.pathFor condition used).or <|
    if byNumber condition then none
    else (t.indexes.find? fun i => sortedBy i order false || sortedBy i order true).or <|
      t.indexes.find? fun i => used.all i.columns.contains && t.indexWidth i < t.width
  match path with
  | some i => if sortedBy i order true then (t.alongIndex i).reverse else t.alongIndex i
  | none => t.rows

end Table

namespace Retrieval

def rowScope (parameters : Nat → Value) (r : TableRow) : Scope :=
  { rowid := .integer r.id, cells := r.cells, parameters }

def matching (parameters : Nat → Value) (condition : Expr Place) (rows : List TableRow) :
    List TableRow :=
  rows.filter fun r => condition.holds (rowScope parameters r)

def compareSorted (parameters : Nat → Value) (a b : TableRow) : List SortTerm → Ordering
  | [] => .eq
  | o :: rest =>
    let c := (o.key.eval (rowScope parameters a)).order (o.key.eval (rowScope parameters b))
    (if o.descending then c.swap else c).then (compareSorted parameters a b rest)

def bound (parameters : Nat → Value) : Option (Expr Place) → Except Failure (Option Int)
  | none => .ok none
  | some e => match Affinity.numeric.store (e.eval { parameters }) with
    | .integer n => .ok (some n)
    | _ => .error .datatypeMismatch

/-- What is left of the rows by the bounds; a bound below zero is none. -/
def between {α : Type} (limit offset : Option Int) (rows : List α) : List α :=
  let rows := rows.drop (offset.getD 0).toNat
  match limit with
  | some (.ofNat n) => rows.take n
  | _ => rows

def row (s : Scope) (output : List Output) : List Value := output.map fun o => o.value.eval s

def usedColumns (r : Retrieval) : List Nat :=
  r.output.flatMap (fun o => o.value.columns) ++ r.condition.columns
    ++ r.order.flatMap fun o => o.key.columns

def counts (r : Retrieval) : Bool := r.output.any fun o => o.value.counts

def met (r : Retrieval) (parameters : Nat → Value) (order : List SortTerm) (t : Table) :
    List TableRow :=
  matching parameters r.condition (t.scan r.condition order r.usedColumns)

def chosen (r : Retrieval) (parameters : Nat → Value) (t : Table) : List TableRow :=
  (r.met parameters r.order t).mergeSort fun a b => compareSorted parameters a b r.order != .gt

/-- The result before it is bounded. A count makes one row of all; other columns then show the first
of them that is met. -/
def allRows (r : Retrieval) (db : Database) (parameters : Nat → Value) : List (List Value) :=
  match r.table.bind db.find? with
  | none =>
    let s : Scope := { parameters, rowCount := 1 }
    if r.condition.holds { parameters } then [row s r.output]
    else if r.counts then [row { parameters } r.output] else []
  | some t =>
    if r.counts then
      let found := r.met parameters [] t
      let first := (found.head?.map (rowScope parameters)).getD { parameters }
      [row { first with rowCount := found.length } r.output]
    else (r.chosen parameters t).map fun f => row (rowScope parameters f) r.output

def rows (r : Retrieval) (db : Database) (parameters : Nat → Value) :
    Except Failure (List (List Value)) := do
  let limit ← bound parameters r.limit
  let offset ← bound parameters r.offset
  return between limit offset (r.allRows db parameters)

end Retrieval

end EndpointGate.Sql
