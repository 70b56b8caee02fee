import EndpointGate.Sql.Scan

/-! Changes to tables. A row is admitted only if it breaks no rule of its table; what happens if it
does is up to the statement. -/

namespace EndpointGate.Sql

structure Stop where
  failure : Failure
  conflict : Conflict
  deriving DecidableEq

namespace Stop

def undo (failure : Failure) : Stop := ⟨failure, .abort⟩

end Stop

inductive Admission
  | put (t : Table) (r : TableRow)
  | leaveOut
  | refuse (s : Stop)

namespace Table

def columnNames (t : Table) (columns : List Nat) : String :=
  String.intercalate ", " <| columns.map fun i =>
    t.name ++ "." ++ ((t.columns[i]?).map Column.name).getD "rowid"

def broken (conflict : Conflict) (rule : Constraint) : Admission :=
  match conflict with
  | .ignore => .leaveOut
  | .replace => .refuse (.undo (.violated rule))
  | c => .refuse ⟨.violated rule, c⟩

def firstNull? (t : Table) (cells : List Value) : Option String :=
  ((t.columns.zip cells).zipIdx.find? fun ((c, v), i) =>
    c.notNull && v = .null && t.idColumn ≠ some i).map fun p => t.name ++ "." ++ p.1.1.name

def filled (t : Table) (cells : List Value) : List Value :=
  (t.columns.zip cells).map fun (c, v) => if c.notNull && v = .null then c.default else v

def firstFailedCheck? (t : Table) (r : TableRow) : Option String :=
  (t.checks.find? fun c =>
    (c.1.eval { rowid := .integer r.id, cells := r.cells }).truth == some false).map (·.2)

def rivals (t : Table) (r : TableRow) : List (Constraint × TableRow) :=
  let byNumber := (t.rows.filter (·.id == r.id)).map fun s =>
    (Constraint.unique (t.columnNames t.idColumn.toList), s)
  byNumber ++ t.indexes.flatMap fun i =>
    if i.unique then
      (t.rows.filter fun s => collide (t.keyOf i r) (t.keyOf i s)).map fun s =>
        (Constraint.unique (t.columnNames i.columns), s)
    else []

def receive (t : Table) (conflict : Conflict) (r : TableRow) : Admission :=
  let cells := if conflict = .replace then t.filled r.cells else r.cells
  match t.firstNull? cells with
  | some column => broken conflict (.notNull column)
  | none =>
    let r := { r with cells := (t.columns.zip cells).map fun (c, v) => c.affinity.store v }
    match t.firstFailedCheck? r with
    | some text => broken conflict (.check text)
    | none =>
      match t.rivals r with
      | [] => .put (t.addRow r) r
      | (rule, s) :: more =>
        if conflict = .replace then
          .put ((((rule, s) :: more).foldl (fun t p => t.removeRow p.2.id) t).addRow r) r
        else broken conflict rule

end Table

structure Progress where
  db : Database
  changed : Nat := 0
  returned : List (List Value) := []
  lastId : Option Int := none

namespace Progress

def each {α : Type} (step : Progress → α → Except Stop Progress) (p : Progress) :
    List α → Progress × Option Stop
  | [] => (p, none)
  | x :: rest =>
    match step p x with
    | .ok p => each step p rest
    | .error s => (p, some s)

def record (p : Progress) (t : Table) (s : Scope) (returning : List Output) : Progress :=
  { p with db := p.db.update t, changed := p.changed + 1
           returned := if returning.isEmpty then p.returned
             else Retrieval.row s returning :: p.returned }

end Progress

def rowNumber (t : Table) (v : Value) : Except Stop Int :=
  match Affinity.numeric.store v with
  | .integer n => .ok n
  | .null => match t.nextId? with
    | some n => .ok n
    | none => .error (.undo .datatypeMismatch)
  | _ => .error (.undo .datatypeMismatch)

namespace Insertion

def step (i : Insertion) (parameters : Nat → Value) (p : Progress) (s : RowSource) :
    Except Stop Progress := do
  let some t := p.db.find? i.table | throw (.undo (.noSuchTable i.table))
  let id ← rowNumber t (s.id.eval { parameters })
  let cells := s.cells.map fun e => e.eval { parameters }
  match (t.useId id).receive i.conflict ⟨id, cells⟩ with
  | .put t r =>
    return { p.record t (Retrieval.rowScope parameters r) i.returning with lastId := some id }
  | .leaveOut => return { p with db := p.db.update (t.useId id) }
  | .refuse s => throw s

def run (i : Insertion) (parameters : Nat → Value) (db : Database) : Progress × Option Stop :=
  Progress.each (i.step parameters) { db } i.rows

end Insertion

namespace Alteration

def step (a : Alteration) (parameters : Nat → Value) (p : Progress) (old : Int) :
    Except Stop Progress := do
  let some t := p.db.find? a.table | throw (.undo (.noSuchTable a.table))
  let some r := t.row? old | return p
  let scope := Retrieval.rowScope parameters r
  let cells := a.cells.map fun e => e.eval scope
  let id ← match Affinity.numeric.store (a.id.eval scope) with
    | .integer n => pure n
    | _ => throw (.undo .datatypeMismatch)
  match (t.removeRow old).receive a.conflict ⟨id, cells⟩ with
  | .put t r => return p.record t (Retrieval.rowScope parameters r) a.returning
  | .leaveOut => return p
  | .refuse s => throw s

def run (a : Alteration) (parameters : Nat → Value) (db : Database) : Progress × Option Stop :=
  let rows := match db.find? a.table with
    | some t => Retrieval.matching parameters a.condition (t.along a.path)
    | none => []
  Progress.each (a.step parameters) { db } (rows.map TableRow.id)

end Alteration

namespace Deletion

def run (d : Deletion) (parameters : Nat → Value) (db : Database) : Progress :=
  match db.find? d.table with
  | none => { db }
  | some t =>
    let gone := Retrieval.matching parameters d.condition t.rows
    { db := db.update { t with rows := t.rows.filter fun r => gone.all (·.id != r.id) }
      changed := gone.length
      returned := if d.returning.isEmpty then []
        else (gone.map fun r => Retrieval.row (Retrieval.rowScope parameters r) d.returning).reverse }

end Deletion

structure Effect where
  db : Database
  rows : List (List Value) := []
  changes : Option Nat := none
  lastId : Option Int := none

inductive Outcome
  | done (e : Effect)
  | stopped (s : Stop) (kept : Option Database)

namespace Outcome

def ofExcept : Except Stop Effect → Outcome
  | .ok e => .done e
  | .error s => .stopped s none

/-- The end of a statement that changes rows. It is undone if rows have come to lack their parents; one
that stopped keeps what it has done only where it says so. -/
def ofProgress (before : Database) (p : Progress) (stop : Option Stop) : Outcome :=
  match stop with
  | none =>
    if before.keepsKeys p.db then
      .done { db := p.db, rows := p.returned.reverse, changes := some p.changed, lastId := p.lastId }
    else .stopped (.undo (.violated .foreignKey)) none
  | some s =>
    if s.conflict ≠ .fail then .stopped s none
    else if before.keepsKeys p.db then .stopped s (some p.db)
    else .stopped (.undo (.violated .foreignKey)) none

end Outcome

namespace Database

def admitsIndex (t : Table) (i : Index) : Bool :=
  !i.unique || t.rows.all fun r => t.rows.all fun s =>
    r.id == s.id || !Table.collide (t.keyOf i r) (t.keyOf i s)

def createIndex (db : Database) (table : String) (i : Index) : Except Stop Database :=
  match db.find? table with
  | none => .error (.undo (.noSuchTable table))
  | some t =>
    if admitsIndex t i then .ok (db.update { t with indexes := t.indexes ++ [i] })
    else .error (.undo (.violated (.unique (t.columnNames i.columns))))

/-- Drops a table. One that foreign keys point at is emptied first, which counts as a change and must
take its parent from no row. -/
def dropTable (db : Database) (name : String) : Except Stop Effect :=
  match db.find? name with
  | none => .error (.undo (.noSuchTable name))
  | some t =>
    if (db.references name).isEmpty then .ok { db := db.drop name }
    else if db.keepsKeys (db.update { t with rows := [] }) then
      .ok { db := db.drop name, changes := some t.rows.length }
    else .error (.undo (.violated .foreignKey))

end Database

def Action.perform (a : Action) (db : Database) (parameters : Nat → Value) : Outcome :=
  match a with
  | .empty => .stopped (.undo .noStatement) none
  | .nothing | .begin _ | .commit | .rollback => .done { db }
  | .createTable t => .done { db := db.add t }
  | .createIndex table i => .ofExcept ((db.createIndex table i).map fun db => { db })
  | .dropTable name => .ofExcept (db.dropTable name)
  | .insert i => let (p, stop) := i.run parameters db; .ofProgress db p stop
  | .update a => let (p, stop) := a.run parameters db; .ofProgress db p stop
  | .delete d => .ofProgress db (d.run parameters db) none
  | .select r => .ofExcept <| match r.rows db parameters with
    | .ok rows => .ok { db, rows }
    | .error f => .error (.undo f)

end EndpointGate.Sql
