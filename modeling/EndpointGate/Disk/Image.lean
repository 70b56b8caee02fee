import EndpointGate.Disk.Basic
import EndpointGate.Endpoint.Registry
import EndpointGate.Json.Reader

/-! What a file holds, as one text. A database is written as its endpoints and the greatest id that has
been used, under a heading by which it is known again. -/

namespace EndpointGate.Image

def heading : String := "endpoint-gate database\n"

def ofDefinition (d : Definition) : Json :=
  .arr [.int d.id, .str d.name, .str d.method, .str d.credential, .str d.sqlTemplate,
    .str d.createdAt]

def definition? : Json → Option Definition
  | .arr [.int id, .str name, .str method, .str credential, .str sqlTemplate, .str createdAt] =>
    some { id, name, method, credential, sqlTemplate, createdAt }
  | _ => none

def endpoints (db : Sql.Database) : List Definition :=
  match ({ path := "", medium := .database db } : Store).list with
  | .ok ds => ds
  | .error _ => []

def ofDatabase (db : Sql.Database) : String :=
  match db.find? EndpointTable.name with
  | none => ""
  | some t => heading ++ (Json.arr (.int t.lastId :: (endpoints db).map ofDefinition)).render

def addDefinition (c : Sql.Connection) (d : Definition) : Sql.Connection :=
  (c.runStatement EndpointTable.placement <|
    (0, .integer d.id) :: (EndpointTable.bindings
      [d.name, d.method, d.credential, d.sqlTemplate, d.createdAt]).map fun p => (p.1 + 1, p.2)).2

def databaseOf (lastId : Int) (ds : List Definition) : Sql.Database :=
  let c := ds.foldl addDefinition ((Sql.Connection.ofDatabase []).runStatements EndpointTable.setup).2
  match c.committed.find? EndpointTable.name with
  | some t => c.committed.update (t.useId lastId)
  | none => c.committed

def ofContent : Content → String
  | .text s => s
  | .database db => ofDatabase db

def content (text : String) : Content :=
  if text.startsWith heading then
    match Json.read .any (text.drop heading.length).toString with
    | .ok (.arr (.int lastId :: ds)) => .database (databaseOf lastId (ds.filterMap definition?))
    | _ => .text text
  else .text text

end EndpointGate.Image
