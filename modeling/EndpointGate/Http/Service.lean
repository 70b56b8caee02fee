import EndpointGate.Gateway.Service
import EndpointGate.Http.Cors
import EndpointGate.Http.MediaType
import EndpointGate.Http.Message
import EndpointGate.Http.Route
import EndpointGate.Json.Reader
import EndpointGate.Session.Store

/-! The service over HTTP: requests are routed, their parts are read in a fixed order, and the first
fault is the answer. -/

namespace EndpointGate.Http

structure Service where
  gateway : Gateway
  adminKey : Option String
  cors : Cors

structure Serving where
  running : Running
  sessions : Sessions

structure Moment where
  now : String
  millis : Int
  freshId : String

def programName : String := "sqlgate"

def programVersion : String := "0.1.0"

def bodyLimit : Nat := 2097152

namespace Service

def ofGatewayError (e : GatewayError) : Response := .text e.status e.publicMessage

def ofSessionError (e : SessionError) : Response := .text e.status e.message

def answer {α : Type} (body : α → Json) : Except GatewayError α → Response
  | .ok a => .json 200 (body a).render
  | .error e => ofGatewayError e

def checkAdmin (s : Service) (r : Request) : Except GatewayError Unit :=
  match s.adminKey with
  | none => .ok ()
  | some key => match r.headerText? "x-admin-key" with
    | some supplied => if sameSecret key supplied then .ok () else .error .authRejected
    | none => .error .authRejected

def isBlankOctet (b : UInt8) : Bool := b == 32 || b == 9 || b == 10 || b == 12 || b == 13

def invocationBody (body : ByteArray) : Except GatewayError InvocationBody := do
  if body.data.all isBlankOctet then return .single []
  match Json.readOctets .any body with
  | .ok j => InvocationBody.ofJson j
  | .error e => throw (.malformedRequest ("invalid JSON body: " ++ e.message))

def registrationBody (body : ByteArray) : Except GatewayError Registration :=
  match Json.readOctets Registration.shape body with
  | .ok j => .ok (.ofJson j)
  | .error e => .error (.malformedRequest ("invalid registration: " ++ e.message))

def tooLong : Response := .text 413 "Failed to buffer the request body: length limit exceeded"

/-- The document of a session request, which must be said to be JSON. What follows it is not read. -/
def document (r : Request) : Except Response Json :=
  if ((r.headerText? "content-type").map isJsonType).getD false then
    if bodyLimit < r.body.size then .error tooLong
    else match Json.readStart .any (Text.glyphs r.body) with
      | .ok (j, _) => .ok j
      | .error e =>
        .error (.text 400 ("Failed to parse the request body as JSON: " ++ e.messageWithPath))
  else .error (.text 415 "Expected request with \x60Content-Type: application/json\x60")

/-- The fields of a read: those of the query, and the id in the path unless the query has one. -/
def readFields (id : Option String) (query : Fields String) : Row :=
  query.foldl (fun row p => row.insert p.1 (.str p.2)) (id.toList.map fun id => ("id", Json.str id))

def segment (cs : List Char) : String := (decodeSegment cs).getD ""

def rowsJson (rows : List Row) : Json := .arr (rows.map .obj)

def outcomeJson (o : BatchOutcome) : Json :=
  .obj [("message", .str "Ok"), ("rows_affected", .int o.rowsAffected)]

def registeredJson (id : Int) : Json :=
  .obj [("endpoint_id", .int id), ("message", .str "Dynamic endpoint created successfully.")]

def listedJson (ds : List Definition) : Json := .arr (ds.map Definition.toJson)

def read (s : Service) (r : Request) (name : List Char) (id : Option (List Char)) (st : Serving) :
    Response × Serving :=
  let request : ReadRequest := ⟨segment name, r.headerText? "x-api-key",
    readFields (id.map segment) (queryFields r.query)⟩
  let (result, running) := s.gateway.read request st.running
  (answer rowsJson result, { st with running })

def invoke (s : Service) (r : Request) (name : List Char) (st : Serving) : Response × Serving :=
  match invocationBody r.body with
  | .error e => (ofGatewayError e, st)
  | .ok body =>
    let (result, running) := s.gateway.invoke
      ⟨segment name, r.method, r.headerText? "x-api-key", body⟩ st.running
    (answer outcomeJson result, { st with running })

def register (s : Service) (moment : Moment) (r : Request) (st : Serving) : Response × Serving :=
  match s.checkAdmin r with
  | .error e => (ofGatewayError e, st)
  | .ok () => match registrationBody r.body with
    | .error e => (ofGatewayError e, st)
    | .ok registration =>
      let (result, running) := s.gateway.register moment.now registration st.running
      (answer registeredJson result, { st with running })

def list (s : Service) (r : Request) (st : Serving) : Response :=
  match s.checkAdmin r with
  | .error e => ofGatewayError e
  | .ok () => answer listedJson (s.gateway.endpoints st.running)

def health : Json :=
  .obj [("status", .str "ok"), ("service", .str programName), ("version", .str programVersion)]

def tell (st : Serving) (e : Event) : Serving :=
  { st with running := { st.running with journal := st.running.journal.event e [] } }

def startSession (moment : Moment) (r : Request) (st : Serving) : Response × Serving :=
  match document r with
  | .error refusal => (refusal, st)
  | .ok j =>
    let st := { st with sessions := st.sessions.start moment.freshId j moment.millis }
    (.json 201 (Json.obj [("session_id", .str moment.freshId)]).render, tell st .sessionStarted)

def getSession (moment : Moment) (id : String) (st : Serving) : Response :=
  match st.sessions.get? id moment.millis with
  | some j => .json 200 j.render
  | none => ofSessionError .notFound

def storeSession (moment : Moment) (r : Request) (id : String) (st : Serving) : Response × Serving :=
  match document r with
  | .error refusal => (refusal, st)
  | .ok j => match st.sessions.store id j moment.millis with
    | .ok sessions => (.empty 204, { st with sessions })
    | .error e => (ofSessionError e, st)

def endSession (moment : Moment) (id : String) (st : Serving) : Response × Serving :=
  match st.sessions.finish id moment.millis with
  | (some j, sessions) => (.json 200 j.render, tell { st with sessions } .sessionEnded)
  | (none, sessions) => (ofSessionError .notFound, { st with sessions })

def takesBody (route : Route) (method : String) : Bool :=
  match route with
  | .dynamic _ => method != "GET"
  | .endpoints => method == "POST" || method == "PUT"
  | _ => false

def serve (s : Service) (moment : Moment) (r : Request) (route : Route) (method : String)
    (st : Serving) : Response × Serving :=
  match route.badParameter? with
  | some name => (.text 400 ("Invalid URL: Invalid UTF-8 in \x60" ++ name ++ "\x60"), st)
  | none =>
    if takesBody route method && bodyLimit < r.body.size then (tooLong, st)
    else match route, method with
      | .health, _ => (.json 200 health.render, st)
      | .metrics, _ => (.json 200 st.running.metrics.snapshot.render, st)
      | .endpoints, "GET" => (s.list r st, st)
      | .endpoints, _ => s.register moment r st
      | .dynamic name, "GET" => s.read r name none st
      | .dynamic name, _ => s.invoke r name st
      | .dynamicRow name id, _ => s.read r name (some id) st
      | .sessions, _ => startSession moment r st
      | .session id, "GET" => (getSession moment (segment id) st, st)
      | .session id, "PUT" => storeSession moment r (segment id) st
      | .session id, _ => endSession moment (segment id) st

def allowHeader (route : Option Route) : List (String × String) :=
  match route with
  | some route => [("allow", ",".intercalate route.methods)]
  | none => []

def handle (s : Service) (moment : Moment) (r : Request) (st : Serving) : Response × Serving :=
  let route := Route.ofPath? r.path
  if r.method = "OPTIONS" then (s.cors.preflight r (allowHeader route), st)
  else
    let (response, st) := match route with
      | none => (Response.empty 404, st)
      | some found =>
        if found.methods.contains r.method then
          s.serve moment r found (if r.method = "HEAD" then "GET" else r.method) st
        else ({ status := 405, headers := allowHeader route }, st)
    let response := if r.method = "HEAD" then { response with body := "" } else response
    (s.cors.mark r response, st)

end Service

end EndpointGate.Http
