import EndpointGate.Endpoint.Credential
import EndpointGate.Endpoint.Error
import EndpointGate.Endpoint.Table
import EndpointGate.Store.Basic

/-! Registries of endpoints: one in a table of the store, one held in memory. Of several definitions
with one name, method and credential the first counts. -/

namespace EndpointGate

structure Holdings where
  store : Store
  definitions : List Definition := []

structure Registry where
  resolve : EndpointKey → String → Holdings → Except RegistryError (Option Definition)
  register : String → Registration → Holdings → Except RegistryError Int × Holdings
  list : Holdings → Except RegistryError (List Definition)

namespace Memory

def resolve (key : EndpointKey) (credential : String) (ds : List Definition) : Option Definition :=
  (ds.filter fun d => d.name = key.name && d.method = key.method).find? fun d =>
    d.admits credential = .allowed

def nextId (ds : List Definition) : Int := ((ds.getLast?).map fun d => d.id + 1).getD 1

def add (now : String) (r : Registration) (ds : List Definition) : List Definition :=
  ds ++ [⟨nextId ds, r.endpointName, r.method, r.credential, r.sqlTemplate, now⟩]

def register (now : String) (r : Registration) (ds : List Definition) :
    Except RegistryError Int × List Definition :=
  match r.normalize with
  | .error field => (.error (.missingField field), ds)
  | .ok r => (.ok (nextId ds), add now r ds)

end Memory

namespace Store

def rows (s : Store) (statement : Sql.Statement) (b : Sql.Bindings) :
    Except StoreError (List (List Sql.Value)) := do
  let c ← s.connect
  (c.runStatement statement b).1.mapError .sql

def resolve (key : EndpointKey) (credential : String) (s : Store) :
    Except RegistryError (Option Definition) :=
  match s.rows EndpointTable.lookup (EndpointTable.bindings [key.name, key.method, credential]) with
  | .error e => .error (.store e)
  | .ok [] => .ok none
  | .ok (row :: _) => match EndpointTable.ofRow row with
    | .ok d => .ok (some d)
    | .error f => .error (.store (.sql f))

def list (s : Store) : Except RegistryError (List Definition) :=
  match s.rows EndpointTable.listing [] with
  | .error e => .error (.store e)
  | .ok rows => (rows.mapM EndpointTable.ofRow).mapError fun f => .store (.sql f)

def addDefinition (now : String) (r : Registration) (s : Store) :
    Except StoreError Int × Store :=
  match s.connect with
  | .error e => (.error e, s)
  | .ok c =>
    let (result, c) := c.runStatement EndpointTable.addition <|
      EndpointTable.bindings [r.endpointName, r.method, r.credential, r.sqlTemplate, now]
    match result with
    | .ok _ => (.ok c.lastId, s.closing c)
    | .error f => (.error (.sql f), s.closing c)

def register (now : String) (r : Registration) (s : Store) : Except RegistryError Int × Store :=
  match r.normalize with
  | .error field => (.error (.missingField field), s)
  | .ok r =>
    let (result, s) := s.addDefinition now r
    (result.mapError .store, s)

end Store

namespace Registry

def inStore : Registry where
  resolve key credential h := h.store.resolve key credential
  register now r h :=
    let (result, store) := h.store.register now r
    (result, { h with store })
  list h := h.store.list

def inMemory : Registry where
  resolve key credential h := .ok (Memory.resolve key credential h.definitions)
  register now r h :=
    let (result, definitions) := Memory.register now r h.definitions
    (result, { h with definitions })
  list h := .ok h.definitions

end Registry

end EndpointGate
