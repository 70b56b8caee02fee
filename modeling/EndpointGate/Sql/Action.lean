import EndpointGate.Sql.Table

/-! What a statement does to a given database, with all its names resolved. -/

namespace EndpointGate.Sql

structure Output where
  name : String
  value : Expr Place

structure SortTerm where
  key : Expr Place
  descending : Bool

structure RowSource where
  id : Expr Place
  cells : List (Expr Place)

structure Insertion where
  table : String
  conflict : Conflict
  rows : List RowSource
  returning : List Output

structure Alteration where
  table : String
  conflict : Conflict
  condition : Expr Place
  id : Expr Place
  cells : List (Expr Place)
  returning : List Output
  path : Option Index := none

structure Deletion where
  table : String
  condition : Expr Place
  returning : List Output

structure Retrieval where
  table : Option String
  output : List Output
  condition : Expr Place
  order : List SortTerm
  limit : Option (Expr Place)
  offset : Option (Expr Place)

inductive Action
  | empty
  | nothing
  | begin (takesLock : Bool)
  | commit
  | rollback
  | createTable (t : Table)
  | createIndex (table : String) (i : Index)
  | dropTable (name : String)
  | insert (i : Insertion)
  | update (a : Alteration)
  | delete (d : Deletion)
  | select (r : Retrieval)

namespace Action

def output : Action → List Output
  | .insert i => i.returning
  | .update a => a.returning
  | .delete d => d.returning
  | .select r => r.output
  | _ => []

def isReadOnly : Action → Bool
  | .empty | .nothing | .begin _ | .commit | .rollback | .select _ => true
  | _ => false

def writes : Action → Bool
  | .begin takesLock => takesLock
  | a => !a.isReadOnly

end Action

end EndpointGate.Sql
