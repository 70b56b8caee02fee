import EndpointGate.Sql.Resolution.Definition
import EndpointGate.Sql.Scan

/-! Resolves the names of a statement against a database. This finds the faults that do not depend on
values: tables and columns that are not there, and lists of a wrong length. -/

namespace EndpointGate.Sql

namespace Database

def checkForeignKey (db : Database) (t : Table) (k : ForeignKey) : Except Failure Unit :=
  if (db.find? k.parent).isNone then .error (.noSuchTable k.parent)
  else if (db.parentKey? k).isNone then .error (.foreignKeyMismatch t.name k.parent)
  else .ok ()

def checkForeignKeys (db : Database) (keys : List (Table × ForeignKey)) : Except Failure Unit :=
  keys.forM fun (t, k) => db.checkForeignKey t k

def resolveSelect (db : Database) (q : Query) : Except Failure Retrieval := do
  let table ← q.table.mapM fun (name, label) => do
    let t ← db.require name
    return (t, label.getD name)
  let plain : Names := { table }
  let output ← plain.outputs q.columns
  let names : Names := { table, aliases := ← plain.aliasesOf q.columns }
  let condition ← names.condition q.condition
  if condition.counts then throw (.misusedAggregate "count")
  let order ← q.order.mapM (names.sortTerm output)
  unless output.any (fun o => o.value.counts) do
    if order.any fun o => o.key.counts then throw (.misusedAggregate "count")
  let bare : Names := {}
  return ⟨table.map (·.1.name), output, condition, order, ← q.limit.mapM bare.resolveSingle,
    ← q.offset.mapM bare.resolveSingle⟩

def givenColumns (t : Table) : Option (List String) → Except Failure (List Place)
  | none => .ok ((List.range t.columns.length).map t.placeAt)
  | some names => names.mapM fun n => match t.place? n with
    | some p => .ok p
    | none => .error (.noSuchColumn n)

/-- A row from the expressions for the given columns; the other columns have their defaults. Of several
expressions for a column the first counts, and for the row's number the last. -/
def rowSource (t : Table) (given : List Place) (values : List (Expr Place)) : RowSource :=
  let valuesFor := fun (column : Option Nat) =>
    ((given.zip values).filter fun p => p.1.column == column).map (·.2)
  { id := (valuesFor none).getLastD (.literal .null)
    cells := (List.range t.columns.length).map fun i =>
      if t.idColumn = some i then .literal .null
      else (valuesFor (some i)).headD (.literal (((t.columns[i]?).map Column.default).getD .null)) }

def resolveInsert (db : Database) (conflict : Conflict) (table : String)
    (columns : Option (List String)) (rows : List (List WrittenExpr)) (returning : List Selection) :
    Except Failure Insertion := do
  let t ← db.require table
  let given ← givenColumns t columns
  let bare : Names := {}
  let rows ← rows.mapM fun row => do
    if row.length ≠ given.length then throw (.wrongValueCount table)
    return rowSource t given (← row.mapM bare.resolveSingle)
  db.checkForeignKeys (t.foreignKeys.map (t, ·))
  let replaces := conflict = .replace
    && t.canReplace (given.map Place.column ++ (List.range t.columns.length).map some)
  if 1 < rows.length || !returning.isEmpty || replaces then
    db.checkForeignKeys (db.references t.name)
  let names : Names := { table := some (t, table) }
  return ⟨t.name, conflict, rows, ← names.returning returning⟩

def resolveUpdate (db : Database) (conflict : Conflict) (table : String)
    (changes : List (String × WrittenExpr)) (condition : Option WrittenExpr)
    (returning : List Selection) : Except Failure Alteration := do
  let t ← db.require table
  let names : Names := { table := some (t, table) }
  let changes ← changes.mapM fun (name, e) => do
    match t.place? name with
    | some p => return (p.column, ← names.resolveSingle e)
    | none => throw (.noSuchColumn name)
  let valueFor := fun (column : Option Nat) (p : Place) =>
    ((changes.reverse.find? fun c => c.1 == column).map (·.2)).getD (.column p)
  let changed := fun (i : Nat) =>
    changes.any fun c => c.1 = some i || (c.1 = none && t.idColumn = some i)
  let replaces := conflict = .replace && t.canReplace (changes.map (·.1))
  let own := t.foreignKeys.filter fun k => replaces || k.columns.any changed
  let others := db.references t.name
  db.checkForeignKeys (own.map (t, ·))
  let touchesKey := !own.isEmpty || others.any fun k => (t.targetColumns k.2).any changed
  if replaces || touchesKey then db.checkForeignKeys others
  let condition ← names.condition condition
  -- rows are first collected by their numbers unless each can be changed as it is met
  let collects := touchesKey || conflict = .replace || !returning.isEmpty
    || changes.any fun c => c.1.isNone
  return ⟨t.name, conflict, condition, valueFor none ⟨none, .integer⟩,
    (List.range t.columns.length).map fun i =>
      if t.idColumn = some i then .literal .null else valueFor (some i) (t.placeAt i),
    ← names.returning returning,
    if collects then none
    else (t.pathFor condition condition.columns).filter fun i => !i.columns.any changed⟩

def resolveDelete (db : Database) (table : String) (condition : Option WrittenExpr)
    (returning : List Selection) : Except Failure Deletion := do
  let t ← db.require table
  let names : Names := { table := some (t, table) }
  db.checkForeignKeys (t.foreignKeys.map (t, ·))
  db.checkForeignKeys (db.references t.name)
  let condition ← names.condition condition
  return ⟨t.name, condition, ← names.returning returning⟩

def resolve (db : Database) : Statement → Except Failure Action
  | .empty => .ok .empty
  | .begin takesLock => .ok (.begin takesLock)
  | .commit => .ok .commit
  | .rollback => .ok .rollback
  | .createTable d unlessThere => db.resolveCreateTable d unlessThere
  | .createIndex d unlessThere => db.resolveCreateIndex d unlessThere
  | .dropTable name ifThere =>
    match db.find? name with
    | some t => .ok (.dropTable t.name)
    | none => if ifThere then .ok .nothing else .error (.noSuchTable name)
  | .insert conflict table columns rows returning =>
    (db.resolveInsert conflict table columns rows returning).map .insert
  | .update conflict table changes condition returning =>
    (db.resolveUpdate conflict table changes condition returning).map .update
  | .delete table condition returning => (db.resolveDelete table condition returning).map .delete
  | .select q => (db.resolveSelect q).map .select

end Database

end EndpointGate.Sql
