import EndpointGate.Sql.Expr

/-! Statements as they are written: tables and columns by name. These are the ones that templates use.
What else SQLite knows is refused as a fault of syntax: more tables than one in a query, joins and
subqueries, `LIKE`, `BETWEEN`, `IN`, `CASE` and `COLLATE`, functions besides `count` and `typeof`, so
that nothing is random or depends on the time, `ON CONFLICT` and `DEFERRABLE` in the rules of a table,
triggers, views, pragmas and savepoints. -/

namespace EndpointGate.Sql

def sameName (a b : String) : Bool := Text.lowerAscii a == Text.lowerAscii b

structure ColumnName where
  table : Option String
  column : String
  /-- Whether it stands in double quotes and so may be meant as a text. -/
  double : Bool
  deriving DecidableEq, Repr

abbrev WrittenExpr := Expr ColumnName

inductive Conflict
  | abort
  | fail
  | ignore
  | replace
  | rollback
  deriving DecidableEq, Repr

inductive Selection
  | all
  | one (e : WrittenExpr) (label : Option String) (text : String)
  deriving DecidableEq

structure OrderTerm where
  key : WrittenExpr
  descending : Bool
  deriving DecidableEq

structure Target where
  table : String
  columns : List String
  deriving DecidableEq, Repr

structure ColumnDef where
  name : String
  typeName : String := ""
  notNull : Bool := false
  primaryKey : Bool := false
  autoincrement : Bool := false
  unique : Bool := false
  checks : List (WrittenExpr × String) := []
  default : Option WrittenExpr := none
  references : List Target := []
  deriving DecidableEq

structure TableDef where
  name : String
  columns : List ColumnDef := []
  primaryKey : List String := []
  uniques : List (List String) := []
  checks : List (WrittenExpr × String) := []
  foreignKeys : List (List String × Target) := []
  deriving DecidableEq

structure IndexDef where
  name : String
  table : String
  columns : List String
  unique : Bool
  deriving DecidableEq

structure Query where
  columns : List Selection
  table : Option (String × Option String)
  condition : Option WrittenExpr
  order : List OrderTerm
  limit : Option WrittenExpr
  offset : Option WrittenExpr
  deriving DecidableEq

inductive Statement
  | empty
  | begin (takesLock : Bool)
  | commit
  | rollback
  | createTable (d : TableDef) (unlessThere : Bool)
  | createIndex (d : IndexDef) (unlessThere : Bool)
  | dropTable (name : String) (ifThere : Bool)
  | insert (conflict : Conflict) (table : String) (columns : Option (List String))
      (rows : List (List WrittenExpr)) (returning : List Selection)
  | update (conflict : Conflict) (table : String) (changes : List (String × WrittenExpr))
      (condition : Option WrittenExpr) (returning : List Selection)
  | delete (table : String) (condition : Option WrittenExpr) (returning : List Selection)
  | select (q : Query)
  deriving DecidableEq

def Statement.namesTables : Statement → Bool
  | .empty | .begin _ | .commit | .rollback => false
  | .select q => q.table.isSome
  | _ => true

end EndpointGate.Sql
