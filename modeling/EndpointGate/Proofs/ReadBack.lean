import EndpointGate.Proofs.BatchAtomicity
import EndpointGate.Proofs.PlainTable

/-! What an endpoint stores is what a read returns. A batch that puts a field of each row into a table of
one column leaves the fields' values there, one after another, and a selection of the column shows each
as it was given, or as the number or the text that stands for it. -/

namespace EndpointGate

open Sql (Connection Prepared Database Value Expr Parameters Bindings)

namespace Json

/-- A number that the database can keep as it is. JSON texts have no others except the integers beyond
63 bits: their integers have 64 bits, and their doubles are finite. -/
def Storable : Json → Prop
  | .int n => Value.isInt64 n = true
  | .real x => x.isFinite = true
  | _ => True

instance : DecidablePred Storable
  | .int n => inferInstanceAs (Decidable (Value.isInt64 n = true))
  | .real x => inferInstanceAs (Decidable (x.isFinite = true))
  | .null | .bool _ | .str _ | .arr _ | .obj _ => isTrue trivial

def readBack : Json → Json
  | .bool b => .int (if b then 1 else 0)
  | .arr items => .str (Json.arr items).render
  | .obj fields => .str (Json.obj fields).render
  | j => j

end Json

theorem Sql.Value.toJson_ofJson {j : Json} (h : j.Storable) : (Value.ofJson j).toJson = j.readBack := by
  cases j with
  | null | bool b => rfl
  | int n =>
    rw [Json.Storable] at h
    simp only [ofJson, h, if_true, toJson, Json.readBack]
  | real x =>
    rw [Json.Storable] at h
    simp only [ofJson, toJson, h, if_true, Json.readBack]
  | str s => exact congrArg Json.str (Text.shown_toUTF8 s)
  | arr items => exact congrArg Json.str (Text.shown_toUTF8 _)
  | obj fields => exact congrArg Json.str (Text.shown_toUTF8 _)

def Row.readBack (row : Row) (field : String) : Json :=
  match row.get? field with
  | some v => v.readBack
  | none => .str ""

theorem Row.toJson_valueFor {row : Row} {field : String}
    (h : ∀ v ∈ row.get? field, v.Storable) :
    (Value.ofJson (Plan.valueFor row field)).toJson = row.readBack field := by
  unfold Plan.valueFor Row.readBack
  cases hv : row.get? field with
  | none => exact Value.toJson_ofJson (j := .str "") trivial
  | some v => exact Value.toJson_ofJson (h v hv)

namespace Template

structure Puts (t : Template) (field table : String) : Prop where
  names : Plan.names t.plan = [field]
  parsed : ∃ ps, Sql.parse (String.ofList (Plan.textFrom 0 t.plan)) =
    .ok (.insert .abort table none [[.parameter 0]] [], ps) ∧ ps.slot? (marker 0) = some 0

structure Selects (t : Template) (table column : String) : Prop where
  names : Plan.names t.plan = []
  parsed : ∃ ps, Sql.parse (String.ofList (Plan.textFrom 0 t.plan)) =
    .ok (.select (Sql.oneColumn table column), ps)

theorem Puts.kind {t : Template} {field table : String} (ht : t.Puts field table) :
    t.kind? = some .counting := by
  obtain ⟨ps, hparsed, -⟩ := ht.parsed
  simp [kind?, BoundStatement.kind?, parse, Plan.bind, hparsed, Sql.Statement.kind]

end Template

namespace Engine

theorem prepare_ofDatabase {db : Database} {s : BoundStatement} {st : Sql.Statement} {ps : Parameters}
    {a : Sql.Action} {b : Bindings} (hparsed : Sql.parse s.sql = .ok (st, ps))
    (hres : db.resolve st = .ok a) (hbound : bindMarkers ps s.parameters = .ok b) :
    prepare (.ofDatabase db) s = .ok (⟨a, ps⟩, b) := by
  have hres' : (Connection.ofDatabase db).resolve st = .ok a :=
    (resolve_of_full (c := .ofDatabase db) rfl st).trans hres
  simp only [prepare_eq, hparsed, hres', hbound, Except.map]

section Insertion

variable {t : Template} {field table column : String} {db : Database} {values : List Value}

theorem effect_of_puts (ht : t.Puts field table) (h : db.Holds table column values) (row : Row) :
    ∃ e, effect db (Plan.bind t.plan row) = .ok e ∧ e.changes = some 1 ∧
      e.db.Holds table column (values ++ [.ofJson (Plan.valueFor row field)]) := by
  obtain ⟨ps, hparsed, hslot⟩ := ht.parsed
  let b : Bindings := [(0, .ofJson (Plan.valueFor row field))]
  obtain ⟨a, e, hres, hdone, hchanges, hdb⟩ := h.insert b.value
  have hbound : bindMarkers ps (Plan.bind t.plan row).parameters = .ok b := by
    have hmarkers : (Plan.bind t.plan row).parameters =
        [(Template.marker 0, Plan.valueFor row field)] := by
      rw [BoundStatement.parameters, Plan.bind, ht.names]
      rfl
    rw [hmarkers, bindMarkers, hslot]
    rfl
  have hprepared := prepare_ofDatabase (s := Plan.bind t.plan row) hparsed hres hbound
  exact ⟨e, by simp only [effect, hprepared, hdone], hchanges, hdb⟩

theorem applied_of_puts (ht : t.Puts field table) (h : db.Holds table column values)
    (rows : List Row) :
    ∃ db', applied t.plan db rows = .ok (db', List.replicate rows.length 1) ∧
      db'.Holds table column
        (values ++ rows.map fun row => .ofJson (Plan.valueFor row field)) := by
  induction rows generalizing db values with
  | nil => exact ⟨db, rfl, by simpa using h⟩
  | cons row rest ih =>
    obtain ⟨e, heffect, hchanges, hdb⟩ := effect_of_puts ht h row
    obtain ⟨db', happlied, hdb'⟩ := ih hdb
    refine ⟨db', ?_, by simpa using hdb'⟩
    simp only [applied, heffect, happlied, hchanges, Except.map, Option.getD_some, List.length_cons,
      List.replicate_succ]

end Insertion

end Engine

structure Store.Holds (s : Store) (table column : String) (values : List Value) : Prop where
  unlocked : s.lock = none
  database : s.medium = .database s.tables
  tables : s.tables.Holds table column values

namespace Store

variable {s : Store} {table column : String} {values : List Value}

theorem Holds.connect (h : s.Holds table column values) : s.connect = .ok (.ofDatabase s.tables) :=
  connect_of_unlocked h.database h.unlocked

theorem Holds.keeping (h : s.Holds table column values) {db : Database} {values' : List Value}
    (hdb : db.Holds table column values') : (s.keeping db).Holds table column values' := by
  unfold Store.keeping
  rw [h.database]
  exact ⟨h.unlocked, rfl, hdb⟩

theorem Holds.begun (h : s.Holds table column values) : ∃ c, s.begun = .ok c := by
  unfold Store.begun
  rw [h.connect]
  exact ⟨_, rfl⟩

end Store

namespace Engine

variable {t : Template} {s : Store} {field table column : String} {values : List Value}

theorem execute_of_puts (ht : t.Puts field table) (hs : s.Holds table column values) (b : Batch)
    (j : Journal) :
    ∃ s', execute t b s j = (.ok ⟨b.size, b.size⟩, s', j) ∧ s'.Holds table column
      (values ++ b.rows.map fun row => .ofJson (Plan.valueFor row field)) := by
  obtain ⟨c, hc⟩ := hs.begun
  obtain ⟨hin, hworking, hzero⟩ := Store.begun_transacting hc
  have hk : t.kind? ≠ some .control := by simp [ht.kind]
  have hd : t.kind? ≠ some .dropping := by simp [ht.kind]
  obtain ⟨db', happlied, hdb'⟩ := applied_of_puts ht hs.tables b.rows
  rw [← hworking] at happlied
  -- statements that can be applied run, and the run leaves the tables that applying them gives
  obtain ⟨counts, c', hrun⟩ := Succeeds.of_applied hin hk happlied
  have hends := (hrun.applied_eq hin hk hd (.inr hzero)).symm.trans happlied
  obtain ⟨rfl, rfl⟩ := Prod.mk.inj (Except.ok.inj hends)
  have hsum : (List.replicate b.rows.length 1).sum = b.size := by
    rw [List.sum_replicate_nat, Nat.mul_one, Batch.size]
  refine ⟨s.keeping c'.working, ?_, hs.keeping hdb'⟩
  rw [execute_of_success hc hrun hk, hsum]

theorem query_of_selects (ht : t.Selects table column) (hs : s.Holds table column values)
    (fields : Row) :
    query t fields s = (.ok (values.map fun v => [(column, v.toJson)]), s) := by
  obtain ⟨ps, hparsed⟩ := ht.parsed
  obtain ⟨r, hres, hnames, hdone⟩ := hs.tables.select (Bindings.value [])
  have hbound : bindMarkers ps (Plan.bind t.plan fields).parameters = .ok [] := by
    rw [BoundStatement.parameters, Plan.bind, ht.names]
    rfl
  have hprepared := prepare_ofDatabase (s := Plan.bind t.plan fields) hparsed hres hbound
  have hrun : (Connection.ofDatabase s.tables).run (.select r) [] =
      (.ok (values.map fun v => [v]), .ofDatabase s.tables) := by
    rw [Connection.run_of_full (c := .ofDatabase s.tables) rfl,
      Connection.perform_of_ne_control (.ofDatabase s.tables) (by simp [Sql.Action.kind])]
    simp only [Connection.ofDatabase] at hdone ⊢
    rw [hdone]
    rfl
  have hclosing : s.closing (.ofDatabase s.tables) = s := Store.keeping_tables s
  have hcolumns : Prepared.columnNames ⟨.select r, ps⟩ = [column] := hnames
  simp only [query, hs.connect, hprepared, hrun, hclosing, hcolumns, List.map_map]
  rfl

section Texts

open Sql

theorem puts_v : Template.Puts ⟨"INSERT INTO t VALUES ($v$)"⟩ "v" "t" where
  names := by decide +kernel
  parsed := ⟨⟨[some "@p0"], [(22, 0)]⟩, toOption_eq_some (by decide +kernel), by decide +kernel⟩

theorem selects_v : Template.Selects ⟨"SELECT v FROM t"⟩ "t" "v" where
  names := by decide +kernel
  parsed := ⟨⟨[], []⟩, toOption_eq_some (by decide +kernel)⟩

end Texts

/-- A batch of any rows is stored whole, and the rows are read again one for one and in order. What a row
brings is only ever a value: no text of it becomes a part of the statement. -/
theorem read_back {s : Store} (hs : s.Holds "t" "v" []) (b : Batch)
    (hb : ∀ row ∈ b.rows, ∀ v ∈ row.get? "v", v.Storable) (j : Journal) :
    ∃ s', execute ⟨"INSERT INTO t VALUES ($v$)"⟩ b s j = (.ok ⟨b.size, b.size⟩, s', j) ∧
      ∀ fields, query ⟨"SELECT v FROM t"⟩ fields s' =
        (.ok (b.rows.map fun row => [("v", row.readBack "v")]), s') := by
  obtain ⟨s', hexecute, hs'⟩ := execute_of_puts puts_v hs b j
  refine ⟨s', hexecute, fun fields => ?_⟩
  have hshown : ∀ row ∈ b.rows, [("v", (Value.ofJson (Plan.valueFor row "v")).toJson)] =
      [("v", row.readBack "v")] := by
    intro row hrow
    rw [Row.toJson_valueFor (hb row hrow)]
  rw [query_of_selects selects_v hs', List.nil_append, List.map_map]
  exact congrArg (fun rows => (Except.ok rows, s')) (List.map_congr_left hshown)

theorem read_back_every_kind :
    let table : Sql.Table := { name := "t", columns := [⟨"v", false, .blob, false, .null⟩] }
    let s : Store := { path := "gate.db", medium := .database [table] }
    let given : List Json := [.null, .bool true, .int (-7), .real ⟨0x3FF8000000000000⟩,
      .str "x'); DROP TABLE t; --", .arr [.int 1, .bool false], .obj [("k", .str "$v$")]]
    let shown : List Json := [.null, .int 1, .int (-7), .real ⟨0x3FF8000000000000⟩,
      .str "x'); DROP TABLE t; --", .str "[1,false]", .str "\x7b\"k\":\"$v$\"\x7d"]
    let b : Batch := ⟨[] :: given.map fun v => [("v", v)], List.cons_ne_nil _ _⟩
    s.Holds "t" "v" [] ∧
      (∀ row ∈ b.rows, ∀ v ∈ row.get? "v", v.Storable) ∧
      ∃ s', execute ⟨"INSERT INTO t VALUES ($v$)"⟩ b s { threshold := .fatal } =
          (.ok ⟨8, 8⟩, s', { threshold := .fatal }) ∧
        ∀ fields, query ⟨"SELECT v FROM t"⟩ fields s' =
          (.ok ([("v", .str "")] :: shown.map fun v => [("v", v)]), s') := by
  intro table s given shown b
  have hplain : table.Plain "v" := ⟨⟨.null, rfl⟩, rfl, rfl, rfl, rfl, fun i hi => nomatch hi⟩
  have hs : s.Holds "t" "v" [] :=
    ⟨rfl, rfl, table, List.find?_cons_of_pos (Sql.sameName_self "t"), hplain, rfl⟩
  have hb : ∀ row ∈ b.rows, ∀ v ∈ row.get? "v", v.Storable := by decide +kernel
  obtain ⟨s', hexecute, hquery⟩ := read_back hs b hb { threshold := .fatal }
  have hrows : (b.rows.map fun row => [("v", Row.readBack row "v")]) =
      [("v", .str "")] :: shown.map fun v => [("v", v)] := by
    decide +kernel
  exact ⟨hs, hb, s', hexecute, fun fields => hrows ▸ hquery fields⟩

end Engine

end EndpointGate
