import EndpointGate.Sql.Action

/-! What names in a statement stand for: columns of its table, aliases of its result, and words that are
names only where nothing else is meant. -/

namespace EndpointGate.Sql

structure Names where
  table : Option (Table × String) := none
  aliases : List (String × Expr Place) := []

namespace Names

def always : Expr Place := .literal (.integer 1)

def otherwise (n : Names) (c : ColumnName) : Except Failure (Expr Place) :=
  match n.aliases.find? fun a => sameName a.1 c.column with
  | some (_, e) => .ok e
  | none =>
    if c.double then .ok (.literal (.ofString c.column))
    else if sameName c.column "true" then .ok (.literal (.integer 1))
    else if sameName c.column "false" then .ok (.literal (.integer 0))
    else .error (.noSuchColumn c.column)

def column (n : Names) (c : ColumnName) : Except Failure (Expr Place) :=
  let own := n.table.bind fun (t, name) =>
    if (c.table.map (sameName name)).getD true then t.place? c.column else none
  match own, c.table with
  | some p, _ => .ok (.column p)
  | none, some _ => .error (.noSuchColumn c.column)
  | none, none => n.otherwise c

def resolve (n : Names) : WrittenExpr → Except Failure (Expr Place)
  | .literal v => .ok (.literal v)
  | .parameter slot => .ok (.parameter slot)
  | .column c => n.column c
  | .negated e => (n.resolve e).map .negated
  | .unchanged e => (n.resolve e).map .unchanged
  | .not e => (n.resolve e).map .not
  | .binary op a b => do return .binary op (← n.resolve a) (← n.resolve b)
  | .cast target e => (n.resolve e).map (.cast target)
  | .typeOf e => (n.resolve e).map .typeOf
  | .rowCount => .ok .rowCount

def resolveSingle (n : Names) (e : WrittenExpr) : Except Failure (Expr Place) :=
  if e.counts then .error (.misusedAggregate "count") else n.resolve e

def condition (n : Names) : Option WrittenExpr → Except Failure (Expr Place)
  | none => .ok always
  | some e => n.resolveSingle e

def everything (n : Names) : Except Failure (List Output) :=
  match n.table with
  | none => .error .noTable
  | some (t, _) => .ok <| (List.range t.columns.length).map fun i =>
    ⟨t.placeName (t.placeAt i), .column (t.placeAt i)⟩

def outputName (n : Names) (e : Expr Place) (label : Option String) (text : String) : String :=
  match label, e, n.table with
  | some a, _, _ => a
  | none, .column p, some (t, _) => t.placeName p
  | none, _, _ => text

def outputs (n : Names) : List Selection → Except Failure (List Output)
  | [] => .ok []
  | .all :: rest => do return (← n.everything) ++ (← n.outputs rest)
  | .one e label text :: rest => do
    let e ← n.resolve e
    return ⟨n.outputName e label text, e⟩ :: (← n.outputs rest)

def returning (n : Names) (s : List Selection) : Except Failure (List Output) := do
  let output ← n.outputs s
  if output.any fun o => o.value.counts then throw (.misusedAggregate "count")
  return output

/-- The number that an expression is, perhaps after signs. Numbers of more than 31 bits do not count. -/
def position? : WrittenExpr → Option Int
  | .literal (.integer i) => if i.natAbs < 2147483648 then some i else none
  | .unchanged e => position? e
  | .negated e => (position? e).map (-·)
  | _ => none

def sortTerm (n : Names) (output : List Output) (o : OrderTerm) : Except Failure SortTerm :=
  match position? o.key, o.key with
  | some i, _ =>
    match if i ≤ 0 then none else output[i.toNat - 1]? with
    | some c => .ok ⟨c.value, o.descending⟩
    | none => .error .termOutOfRange
  | none, .column ⟨none, name, double⟩ =>
    match n.aliases.find? fun a => sameName a.1 name with
    | some (_, e) => .ok ⟨e, o.descending⟩
    | none => (n.column ⟨none, name, double⟩).map (⟨·, o.descending⟩)
  | none, e => (n.resolve e).map (⟨·, o.descending⟩)

def aliasesOf (n : Names) : List Selection → Except Failure (List (String × Expr Place))
  | [] => .ok []
  | .one e (some a) _ :: rest => do return (a, ← n.resolve e) :: (← n.aliasesOf rest)
  | _ :: rest => n.aliasesOf rest

end Names

end EndpointGate.Sql
