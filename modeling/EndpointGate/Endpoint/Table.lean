import EndpointGate.Endpoint.Definition
import EndpointGate.Endpoint.Timestamp
import EndpointGate.Sql.Connection

/-! The table in which endpoints are kept, and the statements that use it. -/

namespace EndpointGate.EndpointTable

open Sql

def name : String := "dynamic_endpoints"

def textColumn (name : String) : ColumnDef := { name, typeName := "TEXT", notNull := true }

def definition : TableDef :=
  { name
    columns := [{ name := "id", typeName := "INTEGER", primaryKey := true, autoincrement := true },
      textColumn "endpoint_name", textColumn "method", textColumn "credential",
      textColumn "sql_template", textColumn "created_at"] }

def lookupIndex : IndexDef :=
  ⟨"idx_dynamic_endpoints_lookup", name, ["endpoint_name", "method", "credential"], false⟩

def setup : List Statement := [.createTable definition true, .createIndex lookupIndex true]

def column (name : String) : WrittenExpr := .column ⟨none, name, false⟩

def columnNames : List String :=
  ["id", "endpoint_name", "method", "credential", "sql_template", "created_at"]

def isParameter (name : String) (slot : Nat) : WrittenExpr :=
  .binary .eq (column name) (.parameter slot)

def select (condition : Option WrittenExpr) (limit : Option WrittenExpr) : Statement :=
  .select
    { columns := columnNames.map fun n => .one (column n) none n
      table := some (name, none)
      condition
      order := [⟨column "id", false⟩]
      limit
      offset := none }

def lookup : Statement :=
  select (some (.binary .and (.binary .and (isParameter "endpoint_name" 0) (isParameter "method" 1))
    (isParameter "credential" 2))) (some (.literal (.integer 1)))

def listing : Statement := select none none

def addition : Statement :=
  .insert .abort name (some (columnNames.drop 1)) [(List.range 5).map .parameter] []

def placement : Statement :=
  .insert .abort name (some columnNames) [(List.range 6).map .parameter] []

def bindings (texts : List String) : Bindings :=
  texts.zipIdx.map fun (t, slot) => (slot, .ofString t)

def textAt (index : Nat) (row : List Value) : Except Failure String :=
  match row[index]? with
  | some (.text octets) => match String.fromUTF8? octets with
    | some s => .ok s
    | none => .error (.unexpectedType index)
  | _ => .error (.unexpectedType index)

def ofRow (row : List Value) : Except Failure Definition := do
  let some (Value.integer id) := row[0]? | throw (.unexpectedType 0)
  let name ← textAt 1 row
  let method ← textAt 2 row
  let credential ← textAt 3 row
  let sqlTemplate ← textAt 4 row
  let createdAt ← textAt 5 row
  if Timestamp.isValid createdAt then
    return { id, name, method, credential, sqlTemplate, createdAt }
  throw (.unexpectedType 5)

end EndpointGate.EndpointTable
