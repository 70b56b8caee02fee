import EndpointGate.Proofs.ConfigChecks
import EndpointGate.Proofs.ShapeReading

/-! The text of a configuration. What is printed of a configuration that makes sense is loaded as the same
one, and what is left out of the text has its default. -/

namespace EndpointGate

namespace Json

def without (names : List String) : Json → Json
  | .obj fields => .obj (fields.filter fun p => p.1 ∉ names)
  | j => j

variable {names : List String} {key : String} {j : Json}

theorem get?_filter (names : List String) (key : String) (fields : Row) :
    Fields.get? key (fields.filter fun p => p.1 ∉ names) =
      if key ∈ names then none else Fields.get? key fields := by
  induction fields with
  | nil => simp
  | cons p rest ih =>
    obtain ⟨k, v⟩ := p
    by_cases hk : k ∈ names
    · rw [List.filter_cons_of_neg (by simpa using hk), ih, Fields.get?]
      by_cases hkey : k = key
      · rw [if_pos (hkey ▸ hk), if_pos (hkey ▸ hk)]
      · rw [if_neg hkey]
    · rw [List.filter_cons_of_pos (by simpa using hk), Fields.get?, Fields.get?, ih]
      by_cases hkey : k = key
      · rw [if_pos hkey, if_neg (hkey ▸ hk), if_pos hkey]
      · rw [if_neg hkey, if_neg hkey]

theorem get?_without (names : List String) (key : String) (j : Json) :
    (j.without names).get? key = if key ∈ names then none else j.get? key := by
  cases j with
  | obj fields => exact get?_filter names key fields
  | _ => simp [without, get?, asObj?]

theorem without_nil (j : Json) : j.without [] = j := by
  cases j <;> simp [without]

end Json

namespace Config

def members : List (Json.Member × Json.Shape) :=
  match shape with
  | .record _ members => members
  | _ => []

def optionalNames : List String := (members.filter fun m => !m.1.required).map (·.1.name)

def pick {α : Type} (names : List String) (name : String) (standard own : α) : α :=
  if name ∈ names then standard else own

def resetting (names : List String) (c : Config) : Config :=
  let standard := ofPath c.databasePath
  { databasePath := c.databasePath
    busyTimeoutMs := pick names "busy_timeout_ms" standard.busyTimeoutMs c.busyTimeoutMs
    listener :=
      { host := pick names "host" standard.listener.host c.listener.host
        port := pick names "port" standard.listener.port c.listener.port
        corsOrigins := pick names "cors_origins" standard.listener.corsOrigins c.listener.corsOrigins }
    schemas := pick names "schemas" standard.schemas c.schemas
    adminKey := pick names "admin_key" standard.adminKey c.adminKey
    backupPath := pick names "backup_path" standard.backupPath c.backupPath
    backupIntervalSecs := pick names "backup_interval_secs" standard.backupIntervalSecs c.backupIntervalSecs
    sessionTtlSecs := pick names "session_ttl_secs" standard.sessionTtlSecs c.sessionTtlSecs
    logLevel := pick names "log_level" standard.logLevel c.logLevel }

variable {c : Config} {names : List String}

section Resetting

theorem resetting_nil (c : Config) : c.resetting [] = c := by
  simp [resetting, pick]

theorem resetting_optionalNames (c : Config) : c.resetting optionalNames = ofPath c.databasePath := by
  simp [resetting, pick, optionalNames, members, shape, Http.Listener.members, ofPath]

theorem pick_cases {α : Type} {P : α → Prop} {name : String} {standard own : α} (hstandard : P standard)
    (hown : P own) : P (pick names name standard own) := by
  unfold pick
  split
  · exact hstandard
  · exact hown

theorem Sensible.resetting (h : c.Sensible) (names : List String) : (c.resetting names).Sensible :=
  have hstandard := sensible_ofPath h.path
  { interval_pos := pick_cases (P := fun secs => secs ≠ 0) hstandard.interval_pos h.interval_pos
    interval_le := pick_cases (P := fun secs => secs ≤ maxPeriodSecs) hstandard.interval_le h.interval_le
    lifetime_pos := pick_cases (P := fun lifetime => ∀ secs, lifetime = some secs → secs ≠ 0)
      hstandard.lifetime_pos h.lifetime_pos
    lifetime_le := pick_cases (P := fun lifetime => ∀ secs, lifetime = some secs → secs ≤ maxPeriodSecs)
      hstandard.lifetime_le h.lifetime_le
    origins := pick_cases
      (P := fun origins : List String => ∀ origin ∈ origins, Http.Cors.isHeaderValue origin = true)
      hstandard.origins h.origins
    path := h.path
    adminKey := pick_cases (P := fun key => key ≠ some "") hstandard.adminKey h.adminKey
    backupPath := pick_cases
      (P := fun backup => ∀ target, backup = some target → Path.same target c.databasePath = false)
      hstandard.backupPath h.backupPath
    schemas := pick_cases
      (P := fun schemas : Fields (List String) => ∀ p ∈ schemas, p.2.any Text.allBlank = false)
      hstandard.schemas h.schemas }

end Resetting

section Reading

variable {j v : Json} {key : String}

theorem taken_without {α : Type} (names : List String) (take : Option Json → α) {standard own : α}
    (hmember : j.get? key = some v) (hstandard : take none = standard) (hown : take (some v) = own) :
    take ((j.without names).get? key) = pick names key standard own := by
  rw [Json.get?_without, hmember, pick]
  split
  · exact hstandard
  · exact hown

theorem filterMap_asStr? (l : List String) : (l.map Json.str).filterMap Json.asStr? = l := by
  rw [List.filterMap_map]
  exact List.filterMap_some

theorem schemasOf_shown (schemas : Fields (List String)) :
    schemasOf (.obj (schemas.map fun p => (p.1, .arr (p.2.map .str)))) = schemas := by
  change (schemas.map _).map _ = schemas
  rw [List.map_map]
  exact (List.map_congr_left fun p _ => congrArg (p.1, ·) (filterMap_asStr? p.2)).trans (List.map_id _)

theorem ofConfigName?_configName (level : Severity) :
    Severity.ofConfigName? level.configName = some level := by
  cases level <;> decide

theorem listener_without (names : List String) (c : Config) :
    Http.Listener.ofJson (c.toJson.without names) = (c.resetting names).listener := by
  unfold Http.Listener.ofJson resetting
  refine (Http.Listener.mk.injEq ..).mpr ⟨?host, ?port, ?origins⟩
  case host =>
    exact taken_without names (fun v => (v.bind Json.asStr?).getD ({} : Http.Listener).host)
      (show c.toJson.get? "host" = some (.str c.listener.host) from rfl) rfl rfl
  case port =>
    exact taken_without names
      (fun v => ((v.bind Json.asNat?).getD ({} : Http.Listener).port.toNat).toUInt16)
      (show c.toJson.get? "port" = some (.int c.listener.port.toNat) from rfl) UInt16.ofNat_toNat
      UInt16.ofNat_toNat
  case origins =>
    exact taken_without names (fun v => (v.map Json.strings).getD ({} : Http.Listener).corsOrigins)
      (show c.toJson.get? "cors_origins" = some (.arr (c.listener.corsOrigins.map .str)) from rfl) rfl
      (filterMap_asStr? c.listener.corsOrigins)

theorem ofJson_without (hpath : "database_path" ∉ names) (c : Config) :
    ofJson (c.toJson.without names) = c.resetting names := by
  have hdatabase : (c.toJson.without names).stringOr "database_path" "" = c.databasePath := by
    rw [Json.stringOr, Json.get?_without, if_neg hpath]
    rfl
  unfold ofJson
  rw [hdatabase, listener_without, resetting]
  refine (Config.mk.injEq ..).mpr
    ⟨rfl, ?timeout, rfl, ?schemas, ?adminKey, ?backupPath, ?interval, ?lifetime, ?level⟩
  case timeout =>
    exact taken_without names
      (fun v => ((v.bind Json.asNat?).getD (ofPath c.databasePath).busyTimeoutMs.toNat).toUInt64)
      (show c.toJson.get? "busy_timeout_ms" = some (.int c.busyTimeoutMs.toNat) from rfl) UInt64.ofNat_toNat
      UInt64.ofNat_toNat
  case schemas =>
    exact taken_without names (fun v => (v.map schemasOf).getD (ofPath c.databasePath).schemas)
      (show c.toJson.get? "schemas" = some _ from rfl) rfl (schemasOf_shown c.schemas)
  case adminKey =>
    exact taken_without names (fun v => v.bind Json.asStr?)
      (show c.toJson.get? "admin_key" = some (optional .str c.adminKey) from rfl) rfl
      (by cases c.adminKey <;> rfl)
  case backupPath =>
    exact taken_without names (fun v => v.bind Json.asStr?)
      (show c.toJson.get? "backup_path" = some (optional .str c.backupPath) from rfl) rfl
      (by cases c.backupPath <;> rfl)
  case interval =>
    exact taken_without names
      (fun v => ((v.bind Json.asNat?).getD (ofPath c.databasePath).backupIntervalSecs.toNat).toUInt64)
      (show c.toJson.get? "backup_interval_secs" = some (.int c.backupIntervalSecs.toNat) from rfl)
      UInt64.ofNat_toNat UInt64.ofNat_toNat
  case lifetime =>
    exact taken_without names (fun v => (v.bind Json.asNat?).map Nat.toUInt64)
      (show c.toJson.get? "session_ttl_secs" = some (optional _ c.sessionTtlSecs) from rfl) rfl
      (by cases c.sessionTtlSecs with
        | none => rfl
        | some secs => exact congrArg some UInt64.ofNat_toNat)
  case level =>
    exact taken_without names
      (fun v => ((v.bind Json.asStr?).bind Severity.ofConfigName?).getD (ofPath c.databasePath).logLevel)
      (show c.toJson.get? "log_level" = some (.str c.logLevel.configName) from rfl) rfl
      (congrArg (Option.getD · _) (ofConfigName?_configName c.logLevel))

end Reading

section Printing

open Json (Shaped)

variable {d : Nat}

theorem shaped_word (n : UInt64) : Shaped d word (.int n.toNat) := .natural n.toNat_lt n.toNat_lt

theorem shaped_optional {α : Type} {shape : Json.Shape} {shown : α → Json} (hlayers : shape.layers = 0)
    (h : ∀ a, Shaped d shape (shown a)) (value : Option α) :
    Shaped d (.optional shape) (optional shown value) := by
  cases value with
  | none => exact .none
  | some a => exact .some hlayers (h a)

theorem shaped_strings (wanted : String) (l : List String) :
    Shaped (d + 1) (.list (.text wanted)) (.arr (l.map .str)) := by
  refine .list fun j hj => ?_
  obtain ⟨s, -, rfl⟩ := List.mem_map.mp hj
  exact .text

theorem shaped_schemas (h : c.schemas.Ordered) :
    Shaped (d + 2) (.dict (.list (.text "a string")))
      (.obj (c.schemas.map fun p => (p.1, .arr (p.2.map .str)))) := by
  refine .dict (List.pairwise_map.mpr h) fun p hp => ?_
  obtain ⟨q, -, rfl⟩ := List.mem_map.mp hp
  exact shaped_strings ..

theorem shaped_configName (level : Severity) :
    Shaped d (.choice Severity.configNames) (.str level.configName) :=
  .choice (by cases level <;> decide)

theorem name_of_required : ∀ m ∈ members, m.1.required = true → m.1.name = "database_path" := by decide

theorem fills_of_toJson {fields : List (String × Json)} (h : c.toJson = .obj fields) :
    Json.Fills members fields where
  known := by
    simp only [members, shape, Http.Listener.members, List.cons_append, List.nil_append, List.forall_mem_cons]
    exact ⟨rfl, rfl, rfl, rfl, rfl, rfl, rfl, rfl, rfl, rfl, rfl, fun m hm => by cases hm⟩
  nodup := by decide
  sublist := by
    cases h
    exact show (members.map fun m => m.1.name).Sublist _ from .refl _
  required m hm hreq := by
    cases h
    rw [name_of_required m hm hreq]
    exact List.mem_cons_self

theorem shaped_toJson (h : c.schemas.Ordered) : Shaped (d + 3) shape c.toJson := by
  refine .record (fills_of_toJson rfl) ?_
  simp only [Http.Listener.toFields, List.cons_append, List.nil_append, List.forall_mem_cons]
  refine ⟨?path, ?timeout, ?host, ?port, ?origins, ?schemas, ?adminKey, ?backupPath, ?interval, ?lifetime,
    ?level, fun p hp => by cases hp⟩
  all_goals rintro m ⟨⟩
  case path => exact .text
  case timeout => exact shaped_word _
  case host => exact .text
  case port => exact .natural c.listener.port.toNat_lt (c.listener.port.toNat_lt.trans (by decide))
  case origins => exact shaped_strings ..
  case schemas => exact shaped_schemas h
  case adminKey => exact shaped_optional rfl (fun _ => .text) _
  case backupPath => exact shaped_optional rfl (fun _ => .text) _
  case interval => exact shaped_word _
  case lifetime => exact shaped_optional rfl shaped_word _
  case level => exact shaped_configName _

theorem shaped_without (h : c.schemas.Ordered) (hpath : "database_path" ∉ names) :
    Shaped (d + 3) shape (c.toJson.without names) := by
  refine (shaped_toJson h).of_sublist List.filter_sublist fun m hm hreq => ?_
  rw [name_of_required m hm hreq]
  exact List.mem_map.mpr ⟨("database_path", .str c.databasePath),
    List.mem_filter.mpr ⟨List.mem_cons_self, decide_eq_true hpath⟩, rfl⟩

end Printing

theorem parse_printed (hordered : c.schemas.Ordered) (hpath : "database_path" ∉ names) :
    parse (Json.render (c.toJson.without names)) = .ok (c.resetting names) := by
  unfold parse
  rw [Json.read_render (shaped_without hordered hpath)]
  exact congrArg Except.ok (ofJson_without hpath c)

theorem load_of_parse {d : Disk} {path text : String} (htext : d.readText path = .ok text)
    (hparse : parse text = .ok c) (hvalid : c.validate = .ok ()) : load d path = .ok c := by
  unfold load
  rw [htext]
  change (parse text >>= _) = _
  rw [hparse]
  change (c.validate >>= _) = _
  rw [hvalid]
  rfl

/-- The text of a configuration that makes sense is loaded as that configuration, whatever stands in its
strings and lists. What is left out of the text is loaded as its default; from a path alone all the rest is. -/
theorem load_printed (hordered : c.schemas.Ordered) (hvalid : c.validate = .ok ()) (d : Disk)
    (path : String) :
    (∀ names, names ⊆ optionalNames → d.readText path = .ok (Json.render (c.toJson.without names)) →
      load d path = .ok (c.resetting names)) ∧
    (d.readText path = .ok (Json.render c.toJson) → load d path = .ok c) ∧
    (d.readText path = .ok (Json.render (c.toJson.without optionalNames)) →
      load d path = .ok (ofPath c.databasePath)) := by
  have hall : ∀ names, names ⊆ optionalNames → d.readText path = .ok (Json.render (c.toJson.without names)) →
      load d path = .ok (c.resetting names) := by
    intro names hnames htext
    have hpath : "database_path" ∉ names := fun h => absurd (hnames h) (by decide)
    have hsense : (c.resetting names).validate = .ok () :=
      validate_eq_ok_iff.mpr ((validate_eq_ok_iff.mp hvalid).resetting names)
    exact load_of_parse htext (parse_printed hordered hpath) hsense
  refine ⟨hall, fun htext => ?_, fun htext => ?_⟩
  · rw [← Json.without_nil c.toJson] at htext
    rw [hall [] (List.nil_subset _) htext, resetting_nil]
  · rw [hall optionalNames (List.Subset.refl _) htext, resetting_optionalNames]

theorem load_printed_escapes :
    let c : Config := {
      databasePath := "base/\"é\".db", busyTimeoutMs := 18446744073709551615
      listener := { host := "::1", port := 65535, corsOrigins := [] }
      schemas := [("Orders", ["customer", "tótal"]), ("Ñ\n", [])]
      adminKey := some "\\\u0001😀", backupPath := some "copy.db", backupIntervalSecs := 60
      sessionTtlSecs := some 315360000, logLevel := .warn }
    let names := ["backup_path", "port", "log_level"]
    let text := "\x7b\"database_path\":\"base/\\\"é\\\".db\",\"busy_timeout_ms\":18446744073709551615," ++
      "\"host\":\"::1\",\"cors_origins\":[]," ++
      "\"schemas\":\x7b\"Orders\":[\"customer\",\"tótal\"],\"Ñ\\n\":[]\x7d," ++
      "\"admin_key\":\"\\\\\\u0001😀\",\"backup_interval_secs\":60,\"session_ttl_secs\":315360000\x7d"
    let d : Disk := { nodes := [(["sqlgate.json"], .file (.text text))] }
    c.schemas.Ordered ∧ c.validate = .ok () ∧ Json.render (c.toJson.without names) = text ∧
      load d "sqlgate.json" = .ok { c with
        listener := { c.listener with port := 8836 }, backupPath := none, logLevel := .info } := by
  intro c names text d
  have hordered : c.schemas.Ordered := List.pairwise_pair.mpr (by decide)
  have hvalid : c.validate = .ok () := toOption_eq_some (by decide +kernel)
  have htext : Json.render (c.toJson.without names) = text := by decide +kernel
  obtain ⟨hsome, -, -⟩ := load_printed hordered hvalid d "sqlgate.json"
  have hfile : d.readText "sqlgate.json" = .ok (Json.render (c.toJson.without names)) := by
    rw [htext]
    rfl
  exact ⟨hordered, hvalid, htext, hsome names (by decide) hfile⟩

end Config
end EndpointGate
