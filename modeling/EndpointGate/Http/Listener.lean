import EndpointGate.Http.Cors
import EndpointGate.Json.Basic
import EndpointGate.Json.Shape

/-! Where the service listens, and which browser origins may call it. -/

namespace EndpointGate.Http

inductive ListenFault
  | addressUnavailable
  | other (reason : String)
  deriving DecidableEq, Repr

def ListenFault.message : ListenFault → String
  | .addressUnavailable => "Cannot assign requested address (os error 99)"
  | .other reason => reason

structure Listener where
  host : String := "0.0.0.0"
  port : UInt16 := 8836
  corsOrigins : List String := ["http://localhost:3000"]
  deriving DecidableEq, Repr

namespace Listener

def address (l : Listener) : String := l.host ++ ":" ++ toString l.port.toNat

def invalidOrigins (l : Listener) : List String := l.corsOrigins.filter (!Cors.isHeaderValue ·)

def cors (l : Listener) : Cors := .ofOrigins l.corsOrigins

def members : List (Json.Member × Json.Shape) :=
  [({ name := "host" }, .text "a string"), ({ name := "port" }, .natural "u16" 65536),
   ({ name := "cors_origins" }, .list (.text "a string"))]

def shape : Json.Shape := .record "HttpServerConfig" members

def ofJson (j : Json) : Listener :=
  let standard : Listener := {}
  { host := j.stringOr "host" standard.host
    port := (j.naturalOr "port" standard.port.toNat).toUInt16
    corsOrigins := j.stringsOr "cors_origins" standard.corsOrigins }

def toFields (l : Listener) : List (String × Json) :=
  [("host", .str l.host), ("port", .int l.port.toNat),
   ("cors_origins", .arr (l.corsOrigins.map .str))]

def toJson (l : Listener) : Json := .obj l.toFields

end Listener

end EndpointGate.Http
