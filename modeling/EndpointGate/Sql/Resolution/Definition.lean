import EndpointGate.Sql.Names

/-! Tables and indexes as they are defined, with their names resolved. A definition that contradicts
itself is refused. -/

namespace EndpointGate.Sql

namespace Database

def isOwnName (name : String) : Bool :=
  "sqlite_".toList.isPrefixOf (Text.lowerAscii name).toList

/-- Adds an index unless there is one on the same columns. -/
def addUnique (indexes : List Index) (columns : List Nat) : List Index :=
  if indexes.any fun i => i.columns = columns then indexes
  else indexes ++ [⟨none, columns, true⟩]

def columnOf (d : ColumnDef) : Except Failure Column := do
  let none : Names := {}
  let default ← match d.default with
    | some e =>
      if e.hasParameter then throw (.syntaxError d.name)
      pure ((← none.resolveSingle e).eval {})
    | _ => pure .null
  return ⟨d.name, !d.typeName.isEmpty, .ofType d.typeName, d.notNull, default⟩

def indexesOf (t : Table) (d : TableDef) (primaryKey : List Nat) : Except Failure (List Index) := do
  let own := d.columns.zipIdx.foldl (fun indexes (c, i) =>
    let indexes := if c.primaryKey && !primaryKey.isEmpty then addUnique indexes primaryKey else indexes
    if c.unique then addUnique indexes [i] else indexes) []
  let own := if primaryKey.isEmpty then own else addUnique own primaryKey
  d.uniques.foldlM (fun indexes names => do
    let columns ← names.mapM fun n => match t.columnIndex? n with
      | some i => .ok i
      | none => .error (.noSuchColumn n)
    return addUnique indexes columns) own

def foreignKeyOf (t : Table) (columns : List Nat) (target : Target) : Except Failure ForeignKey :=
  if !target.columns.isEmpty && target.columns.length ≠ columns.length then
    .error (.foreignKeyMismatch t.name target.table)
  else .ok ⟨columns, target.table, target.columns⟩

def columnIndexes (t : Table) (names : List String) : Except Failure (List Nat) :=
  names.mapM fun n => match t.columnIndex? n with
    | some i => .ok i
    | none => .error (.noSuchColumn n)

def primaryKeyOf (t : Table) (d : TableDef) : Except Failure (List Nat) := do
  let own := (d.columns.zipIdx.filter fun c => c.1.primaryKey).map fun c => [c.2]
  let whole ← if d.primaryKey.isEmpty then pure [] else do pure [← columnIndexes t d.primaryKey]
  match own ++ whole with
  | [] => return []
  | [key] => return key
  | _ => throw (.syntaxError "PRIMARY KEY")

def resolveTable (d : TableDef) : Except Failure Table := do
  if isOwnName d.name then throw (.protectedTable d.name)
  let columns ← d.columns.mapM columnOf
  let twice := columns.zipIdx.find? fun (c, i) => (columns.take i).any fun b => sameName b.name c.name
  if let some (c, _) := twice then throw (.duplicateColumn c.name)
  let t : Table := { name := d.name, columns }
  let key ← primaryKeyOf t d
  let idColumn := match key with
    | [i] => if ((d.columns[i]?).map fun c => sameName c.typeName "integer").getD false then some i
      else none
    | _ => none
  let autoincrement := d.columns.any ColumnDef.autoincrement
  if autoincrement && idColumn.isNone then throw (.syntaxError "AUTOINCREMENT")
  let primaryKey := if idColumn.isSome then [] else key
  let t := { t with idColumn, autoincrement, primaryKey }
  let indexes ← indexesOf t d primaryKey
  let names : Names := { table := some (t, t.name) }
  let checks ← (d.columns.flatMap ColumnDef.checks ++ d.checks).mapM fun (e, text) => do
    if e.hasParameter then throw (.syntaxError text)
    return (← names.resolveSingle e, text)
  let own ← d.columns.zipIdx.mapM fun (c, i) => c.references.mapM (foreignKeyOf t [i])
  let whole ← d.foreignKeys.mapM fun (names, target) => do
    foreignKeyOf t (← columnIndexes t names) target
  return { t with indexes, checks, foreignKeys := own.flatten ++ whole }

def resolveCreateTable (db : Database) (d : TableDef) (unlessThere : Bool) :
    Except Failure Action :=
  if (db.find? d.name).isSome then
    if unlessThere then .ok .nothing else .error (.alreadyExists d.name)
  else if db.hasName d.name then .error (.alreadyExists d.name)
  else (resolveTable d).map .createTable

def resolveCreateIndex (db : Database) (d : IndexDef) (unlessThere : Bool) :
    Except Failure Action := do
  let t ← db.require d.table
  if isOwnName d.name then throw (.protectedTable d.name)
  if (db.find? d.name).isSome then throw (.alreadyExists d.name)
  if db.hasName d.name then
    if unlessThere then return .nothing else throw (.alreadyExists d.name)
  return .createIndex t.name ⟨some d.name, ← columnIndexes t d.columns, d.unique⟩

end Database

end EndpointGate.Sql
