import EndpointGate.Engine.Error
import EndpointGate.Log.Journal
import EndpointGate.Store.Basic
import EndpointGate.Template

/-! Running templates. A batch runs in one transaction, row by row, and counts only as a whole; a read
runs one statement for itself and returns its rows. -/

namespace EndpointGate

structure BatchOutcome where
  rowsApplied : Nat
  rowsAffected : Nat
  deriving DecidableEq, Repr

namespace Engine

open Sql (Connection Prepared Bindings)

def bindMarkers (p : Sql.Parameters) : List (String × Json) → Except StoreError Bindings
  | [] => .ok []
  | (marker, value) :: rest =>
    match p.slot? marker with
    | some slot => (bindMarkers p rest).map ((slot, .ofJson value) :: ·)
    | none => .error (.missingMarker marker)

def prepare (c : Connection) (s : BoundStatement) : Except StoreError (Prepared × Bindings) := do
  let p ← (c.prepare s.sql).mapError .sql
  return (p, ← bindMarkers p.parameters s.parameters)

def changeCount (p : Prepared) (c : Connection) : Nat :=
  if !p.columnNames.isEmpty && p.isReadOnly then 0 else c.changes

def apply (c : Connection) (s : BoundStatement) : Except StoreError Nat × Connection :=
  match prepare c s with
  | .error e => (.error e, c)
  | .ok (p, b) => match c.run p.action b with
    | (.ok _, c) => (.ok (changeCount p c), c)
    | (.error f, c) => (.error (.sql f), c)

def applyRows (plan : Plan) (n : Nat) (c : Connection) :
    List Row → Except (Nat × StoreError) Nat × Connection
  | [] => (.ok 0, c)
  | row :: rest => match apply c (plan.bind row) with
    | (.error e, c) => (.error (n + 1, e), c)
    | (.ok changed, c) => match applyRows plan (n + 1) c rest with
      | (.ok more, c) => (.ok (changed + more), c)
      | (.error e, c) => (.error e, c)

def abandon (c : Connection) (j : Journal) : Connection × Journal :=
  match c.rollback with
  | .ok c => (c, j)
  | .error f => (c, j.error "BATCH_ROLLBACK_FAILED" [("error", f.message)])

def execute (t : Template) (b : Batch) (s : Store) (j : Journal) :
    Except ExecutionError BatchOutcome × Store × Journal :=
  match s.connect with
  | .error e => (.error (.store e), s, j)
  | .ok c => match c.run (.begin true) [] with
    | (.error f, c) => (.error (.store (.sql f)), s.closing c, j)
    | (.ok _, c) => match applyRows t.plan 0 c b.rows with
      | (.error (row, e), c) =>
        let (c, j) := abandon c j
        (.error (.rowFailed row e), s.closing c, j)
      | (.ok changed, c) => match c.commit with
        | .ok c => (.ok ⟨b.size, changed⟩, s.closing c, j)
        | .error f => (.error (.store (.sql f)), s.closing c, j)

/-- A row of a result under the names of its columns; of columns with one name the last is kept. -/
def record (names : List String) (values : List Sql.Value) : Row :=
  Fields.ofList (names.zip (values.map Sql.Value.toJson))

def query (t : Template) (fields : Row) (s : Store) : Except ExecutionError (List Row) × Store :=
  match s.connect with
  | .error e => (.error (.store e), s)
  | .ok c => match prepare c (Plan.bind t.plan fields) with
    | .error e => (.error (.store e), s.closing c)
    | .ok (p, b) => match c.run p.action b with
      | (.ok rows, c) => (.ok (rows.map (record p.columnNames)), s.closing c)
      | (.error f, c) => (.error (.store (.sql f)), s.closing c)

end Engine

end EndpointGate
