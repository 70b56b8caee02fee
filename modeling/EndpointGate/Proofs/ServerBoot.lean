import EndpointGate.Command.Run
import EndpointGate.Proofs.ConfigChecks
import EndpointGate.Proofs.EndpointLookup
import EndpointGate.Proofs.ReadObjects

/-! Bringing up a server. The checks of a configuration leave one way for its parts not to be made, an origin
that is the wildcard, and one for its database not to be opened, a wait for a lock that is too long. -/

namespace EndpointGate

namespace Http.Cors

theorem isHeaderValue_wildcard : isHeaderValue "*" = true := by decide +kernel

theorem ofOrigins_eq {origins : List String} (h : ∀ origin ∈ origins, isHeaderValue origin = true) :
    ofOrigins origins = if origins = [] then .anyOrigin else .origins origins := by
  rw [ofOrigins, List.filter_eq_self.mpr h]
  simp only [List.isEmpty_iff]

theorem hasWildcard_ofOrigins (origins : List String) :
    (ofOrigins origins).hasWildcard = true ↔ "*" ∈ origins := by
  rw [ofOrigins]
  split
  · rename_i hempty
    simp [List.isEmpty_iff.mp hempty, hasWildcard]
  · simp [hasWildcard, isHeaderValue_wildcard]

end Http.Cors

namespace Server

def longest : Nat := 315360000000

theorem period_eq {secs : UInt64} (hpos : secs ≠ 0) (hle : secs ≤ Config.maxPeriodSecs) :
    period secs = .ok (secs.toNat * 1000) ∧ 0 < secs.toNat * 1000 ∧ secs.toNat * 1000 ≤ longest := by
  have hne : secs.toNat ≠ 0 := fun h => hpos (UInt64.toNat_inj.mp h)
  have hmax : secs.toNat ≤ 315360000 := UInt64.le_iff_toNat_le.mp hle
  refine ⟨if_neg hpos, by omega, ?_⟩
  rw [longest]
  omega

theorem le_greatestLifetime {secs : UInt64} (hle : secs ≤ Config.maxPeriodSecs) :
    secs.toNat ≤ Config.greatestLifetime := by
  have hmax : secs.toNat ≤ 315360000 := UInt64.le_iff_toNat_le.mp hle
  rw [Config.greatestLifetime]
  omega

theorem lifetime_eq {secs : UInt64} (hle : secs ≤ Config.maxPeriodSecs) :
    lifetime (min secs.toNat Config.greatestLifetime) = .ok (secs.toNat * 1000) := by
  have hroom := le_greatestLifetime hle
  rw [Nat.min_eq_left hroom, lifetime, if_neg (Nat.not_lt.mpr hroom)]

/-- A server that is as its configuration says, with periods that can be kept. -/
structure Describes (c : Config) (port : Option UInt16) (server : Server) : Prop where
  listener : server.listener = { c.listener with port := port.getD c.listener.port }
  service : server.service = ⟨gatewayOf c, c.adminKey,
    if c.listener.corsOrigins = [] then .anyOrigin else .origins c.listener.corsOrigins⟩
  sessions : server.sessions = { ttl := c.sessionTtlSecs.map fun secs => (secs.toNat : Int) * 1000 }
  ttl : server.sessions.ttl = c.sessionTtl
  backup : server.backup = c.backupPath.map fun target =>
    (⟨c.databasePath, target⟩, c.backupIntervalSecs.toNat * 1000)
  sweepPeriod : server.sweepPeriod = c.sessionTtlSecs.map fun secs => secs.toNat * 1000
  backup_period : ∀ b n, server.backup = some (b, n) → 0 < n ∧ n ≤ longest
  sweep_period : ∀ n, server.sweepPeriod = some n → 0 < n ∧ n ≤ longest

section Boot

variable {c : Config} (h : c.InBounds) (port : Option UInt16)

include h

theorem lives_eq : c.sessionTtlSecs.mapM (fun secs =>
      lifetime (min secs.toNat Config.greatestLifetime)) =
    .ok (c.sessionTtlSecs.map fun secs => (secs.toNat : Int) * 1000) := by
  cases hsecs : c.sessionTtlSecs with
  | none => rfl
  | some secs =>
    rw [Option.mapM_some, lifetime_eq (h.lifetime_le secs hsecs)]
    rfl

theorem sweeps_eq : c.sessionTtlSecs.mapM period =
    .ok (c.sessionTtlSecs.map fun secs => secs.toNat * 1000) := by
  cases hsecs : c.sessionTtlSecs with
  | none => rfl
  | some secs =>
    rw [Option.mapM_some, (period_eq (h.lifetime_pos secs hsecs) (h.lifetime_le secs hsecs)).1]
    rfl

theorem backups_eq : c.backupPath.mapM (fun target => do
      return ((⟨c.databasePath, target⟩ : Backup), ← period c.backupIntervalSecs)) =
    .ok (c.backupPath.map fun target =>
      (⟨c.databasePath, target⟩, c.backupIntervalSecs.toNat * 1000)) := by
  cases c.backupPath with
  | none => rfl
  | some target =>
    rw [Option.mapM_some, (period_eq h.interval_pos h.interval_le).1]
    rfl

omit port in
theorem sessionTtl_eq :
    c.sessionTtl = c.sessionTtlSecs.map fun secs => (secs.toNat : Int) * 1000 := by
  rw [Config.sessionTtl]
  cases hsecs : c.sessionTtlSecs with
  | none => rw [Option.map_none, Option.map_none]
  | some secs =>
    rw [Option.map_some, Option.map_some,
      Nat.min_eq_left (le_greatestLifetime (h.lifetime_le secs hsecs))]

theorem ofConfig_wildcard (hwild : "*" ∈ c.listener.corsOrigins) :
    ofConfig c port = .error .wildcardOrigin := by
  rw [ofConfig, lives_eq h, serviceOf, Http.Listener.cors,
    if_pos ((Http.Cors.hasWildcard_ofOrigins _).mpr hwild)]
  rfl

theorem ofConfig_plain (hplain : "*" ∉ c.listener.corsOrigins) :
    ∃ server, ofConfig c port = .ok server ∧ Describes c port server := by
  have hcors : c.listener.cors.hasWildcard ≠ true :=
    mt (Http.Cors.hasWildcard_ofOrigins _).mp hplain
  rw [ofConfig, lives_eq h, sweeps_eq h, backups_eq h, serviceOf, if_neg hcors, Http.Listener.cors,
    Http.Cors.ofOrigins_eq h.origins]
  refine ⟨_, rfl, ⟨rfl, rfl, rfl, ?_, rfl, rfl, ?_, ?_⟩⟩
  · exact (sessionTtl_eq h).symm
  · intro b n hb
    obtain ⟨target, -, hb⟩ := Option.map_eq_some_iff.mp hb
    cases hb
    exact (period_eq h.interval_pos h.interval_le).2
  · intro n hn
    obtain ⟨secs, hsecs, rfl⟩ := Option.map_eq_some_iff.mp hn
    exact (period_eq (h.lifetime_pos secs hsecs) (h.lifetime_le secs hsecs)).2

end Boot

end Server

namespace Work

variable {α β : Type}

def Sturdy (x : Work α) : Prop := ∀ w b, (x.run w).1 ≠ .error (.broken b)

theorem run_bind (x : Work α) (f : α → Work β) (w : Workplace) : (x >>= f).run w =
    match x.run w with
    | (.ok a, w') => (f a).run w'
    | (.error e, w') => (.error e, w') := by
  rcases h : x.run w with ⟨e | a, w'⟩ <;> simp only [ExceptT.run] at h <;>
    simp [bind, ExceptT.bind, ExceptT.run, ExceptT.mk, StateT.bind, h, ExceptT.bindCont]
  rfl

theorem run_bind_of_ok {x : Work α} {f : α → Work β} {w w' : Workplace} {a : α}
    (h : x.run w = (.ok a, w')) : (x >>= f).run w = (f a).run w' := by
  rw [run_bind, h]

theorem bind_of_error {x : Work α} {f : α → Work β} {w : Workplace} {e : Failure}
    (h : (x.run w).1 = .error e) : ((x >>= f).run w).1 = .error e := by
  rw [run_bind]
  rcases hrun : x.run w with ⟨e' | a, w'⟩ <;> rw [hrun] at h
  · obtain rfl : e' = e := Except.error.inj h
    rfl
  · cases h

theorem run_get (w : Workplace) : (get : Work Workplace).run w = (.ok w, w) := rfl

theorem run_modify (f : Workplace → Workplace) (w : Workplace) :
    (modify f : Work Unit).run w = (.ok (), f w) := rfl

theorem run_note (e : Event) (details : Log.Details) (w : Workplace) :
    (note e details).run w = (.ok (), { w with journal := w.journal.event e details }) := rfl

theorem broken_of_bind {x : Work α} {f : α → Work β} {w : Workplace} {b : Breakdown}
    (h : ((x >>= f).run w).1 = .error (.broken b)) :
    (x.run w).1 = .error (.broken b) ∨
      ∃ a w', x.run w = (.ok a, w') ∧ ((f a).run w').1 = .error (.broken b) := by
  rw [run_bind] at h
  rcases hrun : x.run w with ⟨e | a, w'⟩ <;> rw [hrun] at h
  · obtain rfl : e = .broken b := Except.error.inj h
    exact .inl rfl
  · exact .inr ⟨a, w', rfl, h⟩

theorem Sturdy.broken_of_bind {x : Work α} {f : α → Work β} {w : Workplace} {b : Breakdown}
    (hx : x.Sturdy) (h : ((x >>= f).run w).1 = .error (.broken b)) :
    ∃ a w', x.run w = (.ok a, w') ∧ ((f a).run w').1 = .error (.broken b) :=
  (Work.broken_of_bind h).resolve_left (hx w b)

theorem Sturdy.bind {x : Work α} {f : α → Work β} (hx : x.Sturdy) (hf : ∀ a, (f a).Sturdy) :
    (x >>= f).Sturdy := by
  intro w b h
  obtain ⟨a, w', -, hbroken⟩ := hx.broken_of_bind h
  exact hf a w' b hbroken

theorem sturdy_ofExcept {ε : Type} (failure : ε → CommandError) (x : Except ε α) :
    (ofExcept failure x).Sturdy := by
  intro w b h
  cases x <;> cases h

theorem sturdy_modify (f : Workplace → Workplace) : Sturdy (modify f) := by
  intro w b h
  cases h

theorem sturdy_get : Sturdy get := by
  intro w b h
  cases h

theorem sturdy_set (w : Workplace) : Sturdy (set w) := by
  intro w b h
  cases h

theorem sturdy_pure (a : α) : Sturdy (pure a) := by
  intro w b h
  cases h

theorem sturdy_makeDirectory (c : Config) : (makeDirectory c).Sturdy := by
  unfold makeDirectory
  split
  · exact .bind sturdy_get fun w => .bind (sturdy_set _) fun _ => sturdy_ofExcept _ _
  · exact sturdy_pure ()

theorem run_setWait (c : Config) (w : Workplace) : (setWait c).run w =
    if (w.disk.storeAt c.databasePath none).connect.isOk && Store.longestWait < c.busyTimeoutMs.toNat then
      (.error (.broken .waitTooLong),
        { w with disk := w.disk.touch (w.disk.storeAt c.databasePath none) })
    else (.ok (), w) := by
  rw [setWait, run_bind_of_ok (run_get w)]
  dsimp only
  split <;> rfl

theorem openDatabase_broken {c : Config} {w : Workplace} {b : Breakdown}
    (h : ((openDatabase c).run w).1 = .error (.broken b)) :
    b = .waitTooLong ∧ Store.longestWait < c.busyTimeoutMs.toNat := by
  obtain ⟨_, w₁, -, h⟩ := (sturdy_makeDirectory c).broken_of_bind h
  rcases broken_of_bind h with h | ⟨_, w₂, -, h⟩
  · rw [run_setWait] at h
    split at h
    · rename_i hlong
      cases h
      exact ⟨rfl, of_decide_eq_true (Bool.and_eq_true_iff.mp hlong).2⟩
    · cases h
  · -- what is left of the work may be refused, but does not break down
    refine absurd h (Sturdy.bind sturdy_get (fun w => ?_) w₂ b)
    exact .bind (sturdy_set _) fun _ => sturdy_ofExcept _ _

theorem openDatabase_breaks {c : Config} {w w' : Workplace} (hmade : (makeDirectory c).run w = (.ok (), w'))
    (hconnects : (w'.disk.storeAt c.databasePath none).connect.isOk = true)
    (hlong : Store.longestWait < c.busyTimeoutMs.toNat) :
    ((openDatabase c).run w).1 = .error (.broken .waitTooLong) := by
  have hset : ((w'.disk.storeAt c.databasePath none).connect.isOk &&
      decide (Store.longestWait < c.busyTimeoutMs.toNat)) = true := by
    rw [hconnects, decide_eq_true hlong]
    rfl
  have hbroken : ((setWait c).run w').1 = .error (.broken .waitTooLong) := by
    rw [run_setWait, if_pos hset]
  rw [openDatabase, run_bind_of_ok hmade]
  exact bind_of_error hbroken

theorem sturdy_loadConfig (path : String) : (loadConfig path).Sturdy :=
  .bind sturdy_get fun _ => sturdy_ofExcept _ _

theorem load_of_loadConfig {path : String} {w w' : Workplace} {c : Config}
    (h : (loadConfig path).run w = (.ok c, w')) : Config.load w.disk path = .ok c := by
  rw [loadConfig, run_bind_of_ok (run_get w)] at h
  cases hl : Config.load w.disk path with
  | error e =>
    rw [hl] at h
    cases h
  | ok c' =>
    rw [hl] at h
    cases h
    rfl

theorem serve_broken {s : Surroundings} {path : String} {port : Option UInt16} {w : Workplace}
    {b : Breakdown} (h : ((serve s path port).run w).1 = .error (.broken b)) :
    ∃ c, Config.load w.disk path = .ok c ∧ (Server.ofConfig c port = .error b ∨
      b = .waitTooLong ∧ Store.longestWait < c.busyTimeoutMs.toNat) := by
  obtain ⟨c, w₁, hload, h⟩ := (sturdy_loadConfig path).broken_of_bind h
  refine ⟨c, load_of_loadConfig hload, ?_⟩
  obtain ⟨_, w₂, -, h⟩ := (sturdy_modify _).broken_of_bind h
  obtain ⟨_, w₃, -, h⟩ := (sturdy_modify _).broken_of_bind h
  obtain ⟨_, w₄, -, h⟩ := (sturdy_modify _).broken_of_bind h
  rcases broken_of_bind h with h | ⟨_, w₅, -, h⟩
  · exact .inr (openDatabase_broken h)
  obtain ⟨_, w₆, -, h⟩ := (sturdy_modify _).broken_of_bind h
  cases hs : Server.ofConfig c port with
  | error b' =>
    rw [hs] at h
    cases h
    exact .inl rfl
  | ok server =>
    have hrest : ∀ listening : Except Http.ListenFault Unit, Sturdy (do
        if listening.isOk then note .serving [("addr", server.listener.address)]
        note .shutdownComplete []
        ofExcept CommandError.listen listening) := by
      intro listening
      split
      · exact .bind (sturdy_modify _) fun _ => .bind (sturdy_modify _) fun _ => sturdy_ofExcept _ _
      · exact .bind (sturdy_modify _) fun _ => sturdy_ofExcept _ _
    rw [hs] at h
    exact absurd h (hrest _ w₆ b)

theorem serve_breaks {path : String} {c : Config} {d disk : Disk} (hload : Config.load d path = .ok c)
    (hmade : ∀ j, (makeDirectory c).run ⟨d, j⟩ = (.ok (), ⟨disk, j⟩))
    (hconnects : (disk.storeAt c.databasePath none).connect.isOk = true)
    (hlong : Store.longestWait < c.busyTimeoutMs.toNat) (s : Surroundings) (port : Option UInt16)
    (j : Journal) : ((serve s path port).run ⟨d, j⟩).1 = .error (.broken .waitTooLong) := by
  have hloaded : (loadConfig path).run ⟨d, j⟩ = (.ok c, ⟨d, j⟩) := by
    rw [loadConfig, run_bind_of_ok (run_get _), hload]
    rfl
  rw [serve, run_bind_of_ok hloaded, run_bind_of_ok (run_modify _ _), run_bind_of_ok (run_note _ _ _),
    run_bind_of_ok (run_note _ _ _)]
  exact bind_of_error (openDatabase_breaks (hmade _) hconnects hlong)

end Work

namespace Server

/-- The server of an accepted configuration. All its parts can be made, and are as they were configured,
exactly if the wildcard is not among its origins; with the wildcard the service cannot be made. This and a
wait that is too long for the database are the two ways in which serving breaks down. -/
theorem boot_of_load {d : Disk} {path : String} {c : Config} (h : Config.load d path = .ok c)
    (port : Option UInt16) :
    ((∃ server, ofConfig c port = .ok server ∧ Describes c port server) ↔
      "*" ∉ c.listener.corsOrigins) ∧
    ("*" ∈ c.listener.corsOrigins → ofConfig c port = .error .wildcardOrigin) ∧
    ∀ s j b, ((Command.serve path port).run s ⟨d, j⟩).1 = .error (.broken b) →
      b = .wildcardOrigin ∧ "*" ∈ c.listener.corsOrigins ∨
      b = .waitTooLong ∧ Store.longestWait < c.busyTimeoutMs.toNat := by
  have hbounds := (Config.faults_eq_nil_iff.mp (Config.parse_of_load h).2).toInBounds
  refine ⟨⟨?_, ofConfig_plain hbounds port⟩, ofConfig_wildcard hbounds port, fun s j b hb => ?_⟩
  · rintro ⟨server, hserver, -⟩ hwild
    cases hserver.symm.trans (ofConfig_wildcard hbounds port hwild)
  · obtain ⟨c', hload, hbroken⟩ := Work.serve_broken hb
    obtain rfl := Except.ok.inj (hload.symm.trans h)
    rcases hbroken with hbroken | hlong
    · left
      by_cases hwild : "*" ∈ c'.listener.corsOrigins
      · exact ⟨Except.error.inj (hbroken.symm.trans (ofConfig_wildcard hbounds port hwild)), hwild⟩
      · obtain ⟨server, hserver, -⟩ := ofConfig_plain hbounds port hwild
        cases hserver.symm.trans hbroken
    · exact .inr hlong

theorem boot_of_load_longest :
    let text := "\x7b\"database_path\": \"gate.db\", \"backup_path\": \"copy.db\", " ++
      "\"backup_interval_secs\": 315360000, \"session_ttl_secs\": 315360000\x7d"
    let d : Disk := { nodes := [(["sqlgate.json"], .file (.text text))] }
    let c : Config := {
      databasePath := "gate.db", backupPath := some "copy.db"
      backupIntervalSecs := 315360000, sessionTtlSecs := some 315360000 }
    Config.load d "sqlgate.json" = .ok c ∧ "*" ∉ c.listener.corsOrigins ∧
      ∃ server, ofConfig c (some 80) = .ok server ∧ server.sweepPeriod = some 315360000000 := by
  intro text d c
  have hload : Config.load d "sqlgate.json" = .ok c := toOption_eq_some (by decide +kernel)
  have hplain : "*" ∉ c.listener.corsOrigins := by decide +kernel
  obtain ⟨hboot, -, -⟩ := boot_of_load hload (some 80)
  obtain ⟨server, hserver, hdescribes⟩ := hboot.mpr hplain
  exact ⟨hload, hplain, server, hserver, hdescribes.sweepPeriod⟩

/-- The wildcard is accepted as an origin, and the service cannot be made. -/
theorem wildcard_breaks_boot :
    let text := "\x7b\"database_path\": \"gate.db\", \"cors_origins\": [\"*\"]\x7d"
    let d : Disk := { nodes := [(["sqlgate.json"], .file (.text text))] }
    let c : Config := { databasePath := "gate.db", listener := { corsOrigins := ["*"] } }
    (Config.load d "sqlgate.json").toOption = some c ∧
      ofConfig c none = .error .wildcardOrigin := by
  intro text d c
  have hbounds : c.InBounds := (Config.faults_eq_nil_iff.mp (by decide +kernel)).toInBounds
  have hwild : "*" ∈ c.listener.corsOrigins := List.mem_singleton_self "*"
  exact ⟨by decide +kernel, ofConfig_wildcard hbounds none hwild⟩

end Server

end EndpointGate
