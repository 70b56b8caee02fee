import EndpointGate.Endpoint.Registry
import EndpointGate.Engine.Execution
import EndpointGate.Gateway.Body
import EndpointGate.Gateway.Lifecycle
import EndpointGate.Log.Metrics
import EndpointGate.Schema.Descriptor

/-! The gateway: it looks up the endpoint that a request names, checks the rows against the endpoint's
schema, and has its template run. Each request ends in one state and is counted once. -/

namespace EndpointGate

structure Gateway where
  registry : Registry
  catalog : Catalog

structure Running where
  holdings : Holdings
  metrics : Metrics := {}
  journal : Journal

structure Invocation where
  endpoint : String
  method : String
  credential : Option String
  body : InvocationBody

structure ReadRequest where
  endpoint : String
  credential : Option String
  fields : Row

structure Call where
  lifecycle : Lifecycle
  holdings : Holdings
  journal : Journal

abbrev Handling := ExceptT GatewayError (StateM Call)

namespace Handling

def advance (next : RequestState) : Handling Unit := fun c =>
  match c.lifecycle.advance next c.journal with
  | .ok (lifecycle, journal) => (.ok (), { c with lifecycle, journal })
  | .error e => (.error e, c)

def ofExcept {α : Type} : Except GatewayError α → Handling α
  | .ok a => pure a
  | .error e => throw e

end Handling

namespace Gateway

def resolve (g : Gateway) (endpoint method : String) (credential : Option String) (h : Holdings) :
    Except GatewayError Definition :=
  match credential with
  | none => .error .authRejected
  | some credential =>
    if credential.isEmpty then .error .authRejected
    else match g.registry.resolve (.of endpoint method) credential h with
      | .error e => .error (.ofResolution e)
      | .ok none => .error .notResolved
      | .ok (some d) => if d.admits credential = .allowed then .ok d else .error .notResolved

/-- The rows of a body, once they may be used: those of a batch must meet the endpoint's schema, and a
single row must if there is one. -/
def batchOf (g : Gateway) (endpoint : String) : InvocationBody → Except GatewayError Batch
  | .batch rows => match Batch.ofRows? rows with
    | none => .error (.validationRejected .emptyBatch)
    | some b => ((validate endpoint (g.catalog.get? endpoint) b).mapError .validationRejected).map
        fun _ => b
  | .single row =>
    match g.catalog.get? endpoint with
    | none => .ok (.single row)
    | some d => ((validate endpoint (some d) (.single row)).mapError .validationRejected).map
        fun _ => .single row

def execute (t : Template) (b : Batch) : Handling BatchOutcome := fun c =>
  let (result, store, journal) := Engine.execute t b c.holdings.store c.journal
  (result.mapError .executionFailed, { c with holdings := { c.holdings with store }, journal })

def query (t : Template) (fields : Row) : Handling (List Row) := fun c =>
  let (result, store) := Engine.query t fields c.holdings.store
  (result.mapError .executionFailed, { c with holdings := { c.holdings with store } })

def runInvocation (g : Gateway) (i : Invocation) : Handling BatchOutcome := do
  let d ← .ofExcept (g.resolve i.endpoint i.method i.credential (← get).holdings)
  Handling.advance .resolved
  let b ← .ofExcept (g.batchOf i.endpoint i.body)
  Handling.advance .validated
  Handling.advance .executing
  let outcome ← execute ⟨d.sqlTemplate⟩ b
  Handling.advance .committed
  return outcome

/-- The fields of a read are not checked. -/
def runRead (g : Gateway) (r : ReadRequest) : Handling (List Row) := do
  let d ← .ofExcept (g.resolve r.endpoint "GET" r.credential (← get).holdings)
  Handling.advance .resolved
  Handling.advance .validated
  Handling.advance .executing
  let rows ← query ⟨d.sqlTemplate⟩ r.fields
  Handling.advance .committed
  return rows

def recordFailure (c : Call) (e : GatewayError) (m : Metrics) : Running :=
  let (lifecycle, journal) := c.lifecycle.fail e c.journal
  { holdings := c.holdings, journal
    metrics := if lifecycle.state = .aborted then m.aborted else m.rejected }

def handle {α : Type} (endpoint method : String) (work : Handling α) (s : Running) :
    Except GatewayError α × Call :=
  let (lifecycle, journal) := Lifecycle.start endpoint method s.journal
  work.run { lifecycle, holdings := s.holdings, journal }

def invoke (g : Gateway) (i : Invocation) (s : Running) :
    Except GatewayError BatchOutcome × Running :=
  let m := s.metrics.received
  match handle i.endpoint i.method (g.runInvocation i) s with
  | (.ok outcome, c) =>
    (.ok outcome, { holdings := c.holdings, journal := c.journal
                    metrics := m.committed.applied outcome.rowsApplied })
  | (.error e, c) => (.error e, recordFailure c e m)

def read (g : Gateway) (r : ReadRequest) (s : Running) :
    Except GatewayError (List Row) × Running :=
  let m := s.metrics.received
  match handle r.endpoint "GET" (g.runRead r) s with
  | (.ok rows, c) =>
    (.ok rows, { holdings := c.holdings, metrics := m.served
                 journal := c.journal.event .readServed
                   [("endpoint", r.endpoint), ("rows", toString rows.length)] })
  | (.error e, c) => (.error e, recordFailure c e m)

def register (g : Gateway) (now : String) (r : Registration) (s : Running) :
    Except GatewayError Int × Running :=
  match g.registry.register now r s.holdings with
  | (.ok id, holdings) =>
    (.ok id, { holdings, metrics := s.metrics.registered
               journal := s.journal.event .endpointRegistered
                 [("endpoint", r.endpointName), ("method", r.method), ("id", toString id)] })
  | (.error e, holdings) =>
    if e.isClientError then (.error (.malformedRequest e.message), { s with holdings })
    else
      let journal := s.journal.event .registrationFailed
        [("endpoint", r.endpointName), ("reason", e.message)]
      (.error (.registrationFailed e), { s with holdings, journal })

def endpoints (g : Gateway) (s : Running) : Except GatewayError (List Definition) :=
  (g.registry.list s.holdings).mapError fun e => .internal e.message

end Gateway

end EndpointGate
