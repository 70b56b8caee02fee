import EndpointGate.Config.Load
import EndpointGate.Http.Service
import EndpointGate.Worker

/-! What a configuration brings up: the service with its listener, the sessions, and the work that is
done again and again. -/

namespace EndpointGate

inductive Breakdown
  | wildcardOrigin
  | zeroPeriod
  | lifetimeTooLong
  | waitTooLong
  deriving DecidableEq, Repr

def Breakdown.message : Breakdown → String
  | .wildcardOrigin => "the wildcard origin stands for itself only where any origin is allowed"
  | .zeroPeriod => "a period must not be zero"
  | .lifetimeTooLong => "the life of a session is out of range"
  | .waitTooLong => "too big"

structure Server where
  listener : Http.Listener
  service : Http.Service
  sessions : Sessions
  backup : Option (Backup × Nat)
  sweepPeriod : Option Nat

namespace Server

def period (secs : UInt64) : Except Breakdown Nat :=
  if secs = 0 then .error .zeroPeriod else .ok (secs.toNat * 1000)

def lifetime (secs : Nat) : Except Breakdown Int :=
  if Config.greatestLifetime < secs then .error .lifetimeTooLong else .ok (secs * 1000)

def gatewayOf (c : Config) : Gateway := ⟨.inStore, .ofConfig c.schemas⟩

def serviceOf (c : Config) : Except Breakdown Http.Service :=
  if c.listener.cors.hasWildcard then .error .wildcardOrigin
  else .ok ⟨gatewayOf c, c.adminKey, c.listener.cors⟩

def ofConfig (c : Config) (port : Option UInt16) : Except Breakdown Server := do
  let ttl ← c.sessionTtlSecs.mapM fun secs => lifetime (min secs.toNat Config.greatestLifetime)
  let service ← serviceOf c
  let backup ← c.backupPath.mapM fun target => do
    return (⟨c.databasePath, target⟩, ← period c.backupIntervalSecs)
  let sweepPeriod ← c.sessionTtlSecs.mapM period
  return { listener := { c.listener with port := port.getD c.listener.port }
           service, sessions := { ttl }, backup, sweepPeriod }

end Server

end EndpointGate
