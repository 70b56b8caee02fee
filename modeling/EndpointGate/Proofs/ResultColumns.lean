import EndpointGate.Engine.Execution
import EndpointGate.Proofs.FieldLists
import EndpointGate.Proofs.StatementEffects

/-! The columns of a result. Whatever statement is run, each row of its result has one value for each result
column. A record has the values under the names of their columns, and one member for each column only where
no name is repeated. -/

namespace EndpointGate

namespace Sql

section Width

variable {v : Nat → Value} {p p' : Progress} {n : Nat}

def Progress.Wide (n : Nat) (p : Progress) : Prop := ∀ row ∈ p.returned, row.length = n

theorem Retrieval.length_row (s : Scope) (output : List Output) : (row s output).length = output.length :=
  List.length_map ..

theorem Progress.Wide.record {returning : List Output} (h : p.Wide returning.length) (t : Table) (s : Scope) :
    (p.record t s returning).Wide returning.length := by
  intro row hrow
  rw [Progress.record] at hrow
  dsimp only at hrow
  split_ifs at hrow
  · exact h row hrow
  · obtain rfl | hrow := List.mem_cons.mp hrow
    · exact Retrieval.length_row s returning
    · exact h row hrow

theorem Insertion.step_wide {i : Insertion} {s : RowSource} (h : p.Wide i.returning.length)
    (hs : i.step v p s = .ok p') : p'.Wide i.returning.length := by
  unfold step at hs
  split at hs
  · obtain ⟨id, -, hs⟩ := bind_eq_ok hs
    dsimp only at hs
    split at hs
    · rename_i t r _
      obtain rfl := Except.ok.inj hs
      exact h.record t (Retrieval.rowScope v r)
    · obtain rfl := Except.ok.inj hs
      exact h
    · cases hs
  · cases hs

theorem Alteration.step_wide {a : Alteration} {old : Int} (h : p.Wide a.returning.length)
    (hs : a.step v p old = .ok p') : p'.Wide a.returning.length := by
  unfold step at hs
  split at hs
  · split at hs
    · simp only at hs
      split at hs
      · obtain ⟨id, -, hs⟩ := bind_eq_ok hs
        split at hs
        · rename_i t r _
          obtain rfl := Except.ok.inj hs
          exact h.record t (Retrieval.rowScope v r)
        · obtain rfl := Except.ok.inj hs
          exact h
        · cases hs
      · obtain ⟨id, hid, -⟩ := bind_eq_ok hs
        cases hid
    · obtain rfl := Except.ok.inj hs
      exact h
  · cases hs

theorem Progress.wide_start (n : Nat) (db : Database) : Wide n { db } := by
  intro row hrow
  cases hrow

theorem Insertion.run_wide (i : Insertion) (v : Nat → Value) (db : Database) :
    (i.run v db).1.Wide i.returning.length :=
  Progress.each_keeps (fun _ _ _ hp hs => step_wide hp hs) (Progress.wide_start _ db) i.rows

theorem Alteration.run_wide (a : Alteration) (v : Nat → Value) (db : Database) :
    (a.run v db).1.Wide a.returning.length :=
  Progress.each_keeps (fun _ _ _ hp hs => step_wide hp hs) (Progress.wide_start _ db) _

theorem Deletion.run_wide (d : Deletion) (v : Nat → Value) (db : Database) :
    (d.run v db).Wide d.returning.length := by
  intro row hrow
  unfold run at hrow
  split at hrow
  · cases hrow
  · dsimp only at hrow
    split_ifs at hrow
    · cases hrow
    · obtain ⟨r, -, rfl⟩ := List.mem_map.mp (List.mem_reverse.mp hrow)
      exact Retrieval.length_row _ _

theorem Retrieval.length_of_mem_allRows {r : Retrieval} {db : Database} {row : List Value}
    (h : row ∈ r.allRows db v) : row.length = r.output.length := by
  unfold allRows at h
  split at h
  · dsimp only at h
    split_ifs at h
    · rw [List.mem_singleton.mp h, length_row]
    · rw [List.mem_singleton.mp h, length_row]
    · cases h
  · dsimp only at h
    split_ifs at h
    · rw [List.mem_singleton.mp h, length_row]
    · obtain ⟨f, -, rfl⟩ := List.mem_map.mp h
      exact length_row _ _

theorem Retrieval.mem_of_mem_between {α : Type} {limit offset : Option Int} {rows : List α} {x : α}
    (h : x ∈ between limit offset rows) : x ∈ rows := by
  unfold between at h
  dsimp only at h
  split at h
  · exact List.mem_of_mem_drop (List.mem_of_mem_take h)
  · exact List.mem_of_mem_drop h

theorem Outcome.wide_ofProgress {db : Database} {stop : Option Stop} {e : Effect} (h : p.Wide n)
    (he : ofProgress db p stop = .done e) : ∀ row ∈ e.rows, row.length = n := by
  unfold ofProgress at he
  split at he
  · split_ifs at he
    obtain rfl := Outcome.done.inj he
    exact fun row hrow => h row (List.mem_reverse.mp hrow)
  · split_ifs at he

theorem Outcome.eq_ok_of_ofExcept {x : Except Stop Effect} {e : Effect} (h : ofExcept x = .done e) :
    x = .ok e := by
  cases x with
  | ok e' => exact congrArg _ (Outcome.done.inj h)
  | error s => cases h

theorem Database.rows_dropTable {db : Database} {name : String} {e : Effect} (h : db.dropTable name = .ok e) :
    e.rows = [] := by
  unfold dropTable at h
  split at h
  · cases h
  · split_ifs at h
    · obtain rfl := Except.ok.inj h
      rfl
    · obtain rfl := Except.ok.inj h
      rfl

theorem Action.perform_wide {a : Action} {db : Database} {e : Effect} (h : a.perform db v = .done e) :
    ∀ row ∈ e.rows, row.length = a.output.length := by
  have hnone : e.rows = [] → ∀ row ∈ e.rows, row.length = a.output.length := by
    intro hrows row hrow
    rw [hrows] at hrow
    cases hrow
  cases a with
  | empty => cases h
  | nothing | begin | commit | rollback | createTable =>
    obtain rfl := Outcome.done.inj h
    exact hnone rfl
  | createIndex table i =>
    obtain ⟨db', -, rfl⟩ := map_eq_ok (Outcome.eq_ok_of_ofExcept h)
    exact hnone rfl
  | dropTable name => exact hnone (Database.rows_dropTable (Outcome.eq_ok_of_ofExcept h))
  | insert i => exact Outcome.wide_ofProgress (i.run_wide v db) h
  | update a => exact Outcome.wide_ofProgress (a.run_wide v db) h
  | delete d =>
    exact Outcome.wide_ofProgress (d.run_wide v db)
      (show Outcome.ofProgress db (d.run v db) none = .done e from h)
  | select r =>
    have hok := Outcome.eq_ok_of_ofExcept h
    cases hrows : r.rows db v with
    | error f => simp [hrows] at hok
    | ok rows =>
      rw [hrows] at hok
      obtain rfl := Except.ok.inj hok
      obtain ⟨limit, -, hrows⟩ := bind_eq_ok hrows
      obtain ⟨offset, -, hrows⟩ := bind_eq_ok hrows
      obtain rfl := Except.ok.inj hrows
      exact fun row hrow => Retrieval.length_of_mem_allRows (Retrieval.mem_of_mem_between hrow)

theorem Connection.rows_of_perform {c c' : Connection} {a : Action} {b : Bindings} {rows : List (List Value)}
    (h : c.perform a b = (.ok rows, c')) :
    rows = [] ∨ ∃ e, a.perform c.working b.value = .done e ∧ rows = e.rows := by
  unfold perform at h
  dsimp only at h
  split at h
  · split at h
    · exact .inl (Except.ok.inj (Prod.mk.inj h).1).symm
    · cases h
  · split at h
    · exact .inl (Except.ok.inj (Prod.mk.inj h).1).symm
    · cases h
  · split at h
    · exact .inl (Except.ok.inj (Prod.mk.inj h).1).symm
    · cases h
  · split at h
    · rename_i e he
      exact .inr ⟨e, he, (Except.ok.inj (Prod.mk.inj h).1).symm⟩
    · cases h

theorem Connection.run_wide {c c' : Connection} {a : Action} {b : Bindings} {rows : List (List Value)}
    (h : c.run a b = (.ok rows, c')) : ∀ row ∈ rows, row.length = a.output.length := by
  have hperform : c.perform a b = (.ok rows, c') := by
    unfold run at h
    split at h
    · exact h
    · cases h
  obtain rfl | ⟨e, he, rfl⟩ := rows_of_perform hperform
  · intro row hrow
    cases hrow
  · exact Action.perform_wide he

end Width

end Sql

namespace Engine

open Sql (Connection Prepared Bindings)

def Surfaces (names : List String) (values : List Sql.Value) (r : Row) : Prop :=
  r.length = names.length ∧
    ∀ (n : Nat) (name : String) (value : Sql.Value), names[n]? = some name → values[n]? = some value →
      r.get? name = some value.toJson

variable {names : List String} {values : List Sql.Value}

theorem ordered_record (names : List String) (values : List Sql.Value) : (record names values).Ordered :=
  Fields.ordered_ofList _

theorem get?_record (name : String) (names : List String) (values : List Sql.Value) :
    (record names values).get? name =
      (((names.zip (values.map Sql.Value.toJson)).filter (·.1 == name)).getLast?).map (·.2) :=
  Fields.get?_ofList name _

theorem names_zip (h : values.length = names.length) :
    (names.zip (values.map Sql.Value.toJson)).map (·.1) = names := by
  apply List.map_fst_zip
  exact Nat.le_of_eq ((List.length_map _).trans h).symm

theorem mem_keys_record (h : values.length = names.length) {name : String} :
    name ∈ (record names values).keys ↔ name ∈ names := by
  rw [record, Fields.mem_keys_ofList, names_zip h]

theorem surfaces_record_iff (h : values.length = names.length) :
    Surfaces names values (record names values) ↔ names.Nodup := by
  have hlength : (names.zip (values.map Sql.Value.toJson)).length = names.length := by
    rw [List.length_zip, List.length_map, h, Nat.min_self]
  -- a name that is repeated is counted once, so that members are fewer than columns
  have hnodup : (record names values).length = names.length ↔ names.Nodup := by
    rw [← hlength, record, Fields.length_ofList_eq_iff, names_zip h]
  refine ⟨fun hs => hnodup.mp hs.1, fun hnames => ⟨hnodup.mpr hnames, ?_⟩⟩
  intro n name value hname hvalue
  have hmem : (name, value.toJson) ∈ names.zip (values.map Sql.Value.toJson) := by
    refine List.mem_iff_getElem?.mpr ⟨n, List.getElem?_zip_eq_some.mpr ⟨hname, ?_⟩⟩
    rw [List.getElem?_map, hvalue]
    rfl
  exact Fields.get?_ofList_of_mem (by rwa [names_zip h]) hmem

theorem query_eq_ok {t : Template} {fields : Row} {s s' : Store} {records : List Row}
    (h : query t fields s = (.ok records, s')) :
    ∃ (c : Connection) (p : Prepared) (b : Bindings) (rows : List (List Sql.Value)) (c' : Connection),
      s.connect = .ok c ∧ prepare c (Plan.bind t.plan fields) = .ok (p, b) ∧
      c.run p.action b = (.ok rows, c') ∧ records = rows.map (record p.columnNames) := by
  unfold query at h
  split at h
  · cases h
  · rename_i c hc
    split at h
    · cases h
    · rename_i p b hp
      split at h
      · rename_i rows c' hrun
        exact ⟨c, p, b, rows, c', hc, hp, hrun, (Except.ok.inj (Prod.mk.inj h).1).symm⟩
      · cases h

theorem columnNames_of_prepare {c : Connection} {st : BoundStatement} {p : Prepared} {b : Bindings}
    (hp : prepare c st = .ok (p, b)) (h : (prepare c st).toOption.map (fun q => q.1.columnNames) = some names) :
    p.columnNames = names := by
  rw [hp] at h
  exact Option.some.inj h

/-- A read returns one record for each row, in their order, under the names of the columns. Every column is
there, with its own value, exactly if no two columns have one name; else the last of them stands for all. -/
theorem query_surfaces {t : Template} {fields : Row} {s s' : Store} {records : List Row}
    (h : query t fields s = (.ok records, s')) :
    ∃ (c : Connection) (p : Prepared) (b : Bindings) (rows : List (List Sql.Value)),
      s.connect = .ok c ∧ prepare c (Plan.bind t.plan fields) = .ok (p, b) ∧ (c.run p.action b).1 = .ok rows ∧
      records.length = rows.length ∧
      ∀ (n : Nat) (row : List Sql.Value) (r : Row), rows[n]? = some row → records[n]? = some r →
        row.length = p.columnNames.length ∧ r.Ordered ∧ (∀ name, name ∈ r.keys ↔ name ∈ p.columnNames) ∧
        (∀ name, r.get? name =
          (((p.columnNames.zip (row.map Sql.Value.toJson)).filter (·.1 == name)).getLast?).map (·.2)) ∧
        (Surfaces p.columnNames row r ↔ p.columnNames.Nodup) := by
  obtain ⟨c, p, b, rows, c', hc, hp, hrun, rfl⟩ := query_eq_ok h
  refine ⟨c, p, b, rows, hc, hp, congrArg Prod.fst hrun, List.length_map .., ?_⟩
  intro n row r hrow hr
  rw [List.getElem?_map, hrow] at hr
  obtain rfl := Option.some.inj hr
  have hwide : row.length = p.columnNames.length :=
    (Connection.run_wide hrun row (List.mem_of_getElem? hrow)).trans (List.length_map ..).symm
  exact ⟨hwide, ordered_record _ _, fun name => mem_keys_record hwide, fun name => get?_record name _ _,
    surfaces_record_iff hwide⟩

theorem query_surfaces_two :
    let s : Store := ⟨"gate.db", .fleeting, none⟩
    (query ⟨"SELECT 1 AS a, 2 AS b"⟩ [] s).1 = .ok [[("a", .int 1), ("b", .int 2)]] ∧
    ∃ row : List Sql.Value, row.length = 2 ∧ Surfaces ["a", "b"] row [("a", .int 1), ("b", .int 2)] := by
  intro s
  have hquery : (query ⟨"SELECT 1 AS a, 2 AS b"⟩ [] s).1 = .ok [[("a", .int 1), ("b", .int 2)]] :=
    toOption_eq_some (by decide +kernel)
  obtain ⟨c, p, b, rows, hc, hp, -, hlength, hrows⟩ := query_surfaces (Prod.ext hquery rfl)
  obtain rfl := Except.ok.inj hc
  have hcolumns : p.columnNames = ["a", "b"] := columnNames_of_prepare hp (by decide +kernel)
  obtain ⟨row, hrow⟩ : ∃ row, rows[0]? = some row := ⟨_, List.getElem?_eq_getElem (hlength ▸ Nat.one_pos)⟩
  obtain ⟨hwide, -, -, -, hsurfaces⟩ := hrows 0 row _ hrow rfl
  rw [hcolumns] at hwide hsurfaces
  exact ⟨hquery, row, hwide, hsurfaces.mpr (by decide)⟩

/-- Of two columns of one name only one is in the record. -/
theorem query_drops_column : ¬∀ (t : Template) (fields : Row) (s s' : Store) (records : List Row),
    query t fields s = (.ok records, s') →
    ∃ (c : Connection) (p : Prepared) (b : Bindings) (rows : List (List Sql.Value)),
      s.connect = .ok c ∧ prepare c (Plan.bind t.plan fields) = .ok (p, b) ∧ (c.run p.action b).1 = .ok rows ∧
      records.length = rows.length ∧
      ∀ (n : Nat) (row : List Sql.Value) (r : Row), rows[n]? = some row → records[n]? = some r →
        Surfaces p.columnNames row r := by
  intro h
  have hquery : (query ⟨"SELECT 1 AS a, 2 AS a"⟩ [] ⟨"gate.db", .fleeting, none⟩).1 = .ok [[("a", .int 2)]] :=
    toOption_eq_some (by decide +kernel)
  obtain ⟨c, p, b, rows, hc, hp, -, hlength, hrows⟩ := h _ _ _ _ _ (Prod.ext hquery rfl)
  obtain rfl := Except.ok.inj hc
  have hcolumns : p.columnNames = ["a", "a"] := columnNames_of_prepare hp (by decide +kernel)
  obtain ⟨row, hrow⟩ : ∃ row, rows[0]? = some row := ⟨_, List.getElem?_eq_getElem (hlength ▸ Nat.one_pos)⟩
  have hone := (hrows 0 row _ hrow rfl).1
  rw [hcolumns] at hone
  cases hone

end Engine

end EndpointGate
