import EndpointGate.Endpoint.Table
import EndpointGate.Store.Basic

/-! Opening a store makes the table of endpoints in it, unless it is there. -/

namespace EndpointGate.Store

def open? (s : Store) : Except StoreError Unit × Store :=
  match s.connect with
  | .error e => (.error e, s)
  | .ok c =>
    let (r, c) := c.runStatements EndpointTable.setup
    (r.mapError .sql, s.closing c)

end EndpointGate.Store
