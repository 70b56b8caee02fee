import EndpointGate.Sql.Failure
import EndpointGate.Sql.Statement

/-! Tables with their rows, and the database that they make up. The rows of a table are in ascending
order of their numbers, each number once. -/

namespace EndpointGate.Sql

structure Column where
  name : String
  typed : Bool
  affinity : Affinity
  notNull : Bool
  default : Value
  deriving DecidableEq

structure Index where
  name : Option String
  columns : List Nat
  unique : Bool
  deriving DecidableEq

structure ForeignKey where
  columns : List Nat
  parent : String
  /-- The columns there; none means its primary key. -/
  parentColumns : List String
  deriving DecidableEq

/-- What is missing for a row without a parent. -/
structure Gap where
  table : String
  key : ForeignKey
  values : List Value
  deriving DecidableEq

structure TableRow where
  id : Int
  cells : List Value
  deriving DecidableEq

structure Table where
  name : String
  columns : List Column
  /-- The column that shows the row's number. -/
  idColumn : Option Nat := none
  autoincrement : Bool := false
  primaryKey : List Nat := []
  indexes : List Index := []
  checks : List (Expr Place × String) := []
  foreignKeys : List ForeignKey := []
  rows : List TableRow := []
  /-- The greatest number ever used, where numbers are not used again. -/
  lastId : Int := 0

abbrev Database := List Table

namespace Table

def columnIndex? (t : Table) (name : String) : Option Nat :=
  t.columns.findIdx? fun c => sameName c.name name

def isRowidName (name : String) : Bool :=
  sameName name "rowid" || sameName name "oid" || sameName name "_rowid_"

def place? (t : Table) (name : String) : Option Place :=
  match t.columnIndex? name with
  | some i =>
    if t.idColumn = some i then some ⟨none, .integer⟩
    else some ⟨some i, ((t.columns[i]?).map Column.affinity).getD .blob⟩
  | none => if isRowidName name then some ⟨none, .integer⟩ else none

def placeName (t : Table) (p : Place) : String :=
  match p.column.or t.idColumn with
  | some i => ((t.columns[i]?).map Column.name).getD ""
  | none => "rowid"

def placeAt (t : Table) (i : Nat) : Place :=
  if t.idColumn = some i then ⟨none, .integer⟩
  else ⟨some i, ((t.columns[i]?).map Column.affinity).getD .blob⟩

def canReplace (t : Table) (columns : List (Option Nat)) : Bool :=
  columns.contains none
    || t.indexes.any fun i => i.unique && i.columns.any fun c => columns.contains (some c)

def targetColumns (t : Table) (k : ForeignKey) : List Nat :=
  if k.parentColumns.isEmpty then t.idColumn.toList ++ t.primaryKey
  else k.parentColumns.filterMap t.columnIndex?

def row? (t : Table) (id : Int) : Option TableRow := t.rows.find? (·.id == id)

def insertRow (r : TableRow) : List TableRow → List TableRow
  | [] => [r]
  | s :: rest => if r.id < s.id then r :: s :: rest else s :: insertRow r rest

def addRow (t : Table) (r : TableRow) : Table := { t with rows := insertRow r t.rows }

def useId (t : Table) (id : Int) : Table := { t with lastId := max t.lastId id }

def removeRow (t : Table) (id : Int) : Table := { t with rows := t.rows.filter (·.id != id) }

/-- The number of the next row: one more than the last one in use, or than any ever used. When the
numbers have run out, the least one that is free. -/
def nextId? (t : Table) : Option Int :=
  let used := ((t.rows.getLast?).map TableRow.id).getD 0
  let next := (if t.autoincrement then max used t.lastId else used) + 1
  if next ≤ Value.greatestInteger then some next
  else if t.autoincrement then none
  else ((List.range (t.rows.length + 1)).map fun n => Int.ofNat (n + 1)).find?
    fun n => (t.row? n).isNone

def cell (t : Table) (r : TableRow) (column : Nat) : Value :=
  if t.idColumn = some column then .integer r.id else r.cells.getD column .null

def keyOf (t : Table) (i : Index) (r : TableRow) : List Value := i.columns.map (t.cell r)

/-- Whether two keys of a unique index collide; a null collides with nothing. -/
def collide (a b : List Value) : Bool :=
  a.all (· ≠ .null) && (a.zip b).all fun p => p.1.same p.2

end Table

namespace Database

def find? (db : Database) (name : String) : Option Table := List.find? (fun t => sameName t.name name) db

def require (db : Database) (name : String) : Except Failure Table :=
  match db.find? name with
  | some t => .ok t
  | none => .error (.noSuchTable name)

def update (db : Database) (t : Table) : Database :=
  db.map fun u => if sameName u.name t.name then t else u

def add (db : Database) (t : Table) : Database := db ++ [t]

def drop (db : Database) (name : String) : Database :=
  db.filter fun t => !sameName t.name name

def hasName (db : Database) (name : String) : Bool :=
  db.any fun t => sameName t.name name
    || t.indexes.any fun i => (i.name.map (sameName name)).getD false

def parentKey? (db : Database) (k : ForeignKey) : Option (Table × List Nat) := do
  let parent ← find? db k.parent
  let columns ← if k.parentColumns.isEmpty then
      match parent.idColumn with
      | some i => some [i]
      | none => if parent.primaryKey.isEmpty then none else some parent.primaryKey
    else k.parentColumns.mapM parent.columnIndex?
  if columns.length ≠ k.columns.length then none
  else if columns.map some = [parent.idColumn] then some (parent, columns)
  else if parent.indexes.any fun i => i.unique && i.columns.all columns.contains
      && columns.all i.columns.contains then some (parent, columns)
  else none

def hasParent (db : Database) (t : Table) (k : ForeignKey) (r : TableRow) : Bool :=
  let key := k.columns.map (t.cell r)
  if key.any (· = .null) then true
  else match parentKey? db k with
    | none => false
    | some (parent, columns) =>
      parent.rows.any fun p => (columns.zip key).all fun (c, v) =>
        let affinity := (parent.placeAt c).affinity
        (parent.cell p c).same (affinity.store v)

def gapsOf (db : Database) (t : Table) : List Gap :=
  t.foreignKeys.flatMap fun k => (t.rows.filter (!hasParent db t k ·)).map fun r =>
    ⟨t.name, k, k.columns.map (t.cell r)⟩

def gaps (db : Database) : List Gap := db.flatMap db.gapsOf

/-- Whether no row has come to lack a parent: every gap was there before, and as often. -/
def keepsKeys (before after : Database) : Bool :=
  after.gaps.all fun g => after.gaps.count g ≤ before.gaps.count g

def references (db : Database) (name : String) : List (Table × ForeignKey) :=
  db.flatMap fun t => (t.foreignKeys.filter fun k => sameName k.parent name).map (t, ·)

end Database

end EndpointGate.Sql
