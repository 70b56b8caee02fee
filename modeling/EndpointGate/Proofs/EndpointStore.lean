import EndpointGate.Proofs.BatchRun
import EndpointGate.Proofs.TableRelations
import EndpointGate.Proofs.RegistryHistory

/-! A store that keeps definitions. Its table of endpoints has one row for each, in their order; opening
it again finds that table, a registration puts one row at its end, and what is read are the definitions.
Whatever else the store holds does not get in the way: foreign keys of other tables ask for rows that are
there, and no table can take the name of the index. -/

namespace EndpointGate

open Sql (Table TableRow Database Value Expr Insertion Connection Column Index TableDef ColumnDef Bindings)

namespace Sql.Connection

theorem runStatement_free {db : Database} {s : Statement} {a : Action} (ha : db.resolve s = .ok a)
    (hk : a.kind ≠ .control) (b : Bindings) :
    (ofDatabase db).runStatement s b = match a.perform db b.value with
      | .done e => (.ok e.rows, (ofDatabase db).accept e)
      | .stopped stop kept => (.error stop.failure, (ofDatabase db).stopped stop kept) := by
  have hres : (ofDatabase db).resolve s = .ok a := by
    have hread : (ofDatabase db).access.read = .ok () := rfl
    unfold resolve
    split <;> simp only [hread, bind, Except.bind] <;> exact ha
  simp only [runStatement, hres, run_of_full (c := ofDatabase db) rfl]
  exact perform_of_ne_control (ofDatabase db) hk b

theorem runStatement_ofDatabase {db : Database} {s : Statement} {a : Action} {b : Bindings} {e : Effect}
    (ha : db.resolve s = .ok a) (hk : a.kind ≠ .control) (hd : a.perform db b.value = .done e) :
    (ofDatabase db).runStatement s b = (.ok e.rows, (ofDatabase db).accept e) := by
  rw [runStatement_free ha hk, hd]

end Sql.Connection

section Definition

open Sql.Database

theorem Sql.Database.resolveTable_numbered {d : TableDef} {columns : List Column} {i : Nat}
    (hown : isOwnName d.name = false) (hcolumns : d.columns.mapM columnOf = .ok columns)
    (htwice : (columns.zipIdx.find? fun (c, i) =>
      (columns.take i).any fun b => Sql.sameName b.name c.name) = none)
    (hkey : primaryKeyOf { name := d.name, columns } d = .ok [i])
    (hid : ((d.columns[i]?).map fun c => Sql.sameName c.typeName "integer").getD false = true)
    (hindexes : ∀ t, indexesOf t d [] = .ok [])
    (hchecks : d.columns.flatMap ColumnDef.checks ++ d.checks = [])
    (hreferences : ∀ t, (d.columns.zipIdx.mapM fun (c, i) =>
      c.references.mapM (foreignKeyOf t [i])) = .ok (columns.map fun _ => []))
    (hkeys : d.foreignKeys = []) :
    resolveTable d = .ok { name := d.name, columns, idColumn := some i,
                           autoincrement := d.columns.any ColumnDef.autoincrement } := by
  unfold resolveTable
  simp only [hown, hcolumns, bind, Except.bind, pure, Except.pure, htwice, hkey, hid, hindexes,
    hchecks, hreferences, hkeys, if_true, Option.isNone_some, Option.isSome_some, Bool.and_false,
    Bool.false_eq_true, if_false]
  simp [pure, Except.pure]

theorem Sql.Database.resolve_createTable_nil {d : TableDef} {t : Table} (h : resolveTable d = .ok t)
    (unlessThere : Bool) : Database.resolve [] (.createTable d unlessThere) = .ok (.createTable t) := by
  simp [Database.resolve, Database.resolveCreateTable, Database.find?, Database.hasName, h, Except.map]

end Definition

namespace EndpointTable

def rowOf (d : Definition) : TableRow :=
  ⟨d.id, .null :: [d.name, d.method, d.credential, d.sqlTemplate, d.createdAt].map .ofString⟩

def index : Index := ⟨some lookupIndex.name, [1, 2, 3], false⟩

def made : Table :=
  { name
    columns := ⟨"id", true, .integer, false, .null⟩ ::
      (columnNames.drop 1).map fun n => ⟨n, true, .text, true, .null⟩
    idColumn := some 0
    autoincrement := true }

def holding (ds : List Definition) : Table :=
  { made with indexes := [index], rows := ds.map rowOf, lastId := ds.length }

variable {db : Database} {ds : List Definition} {d : Definition}

theorem resolveTable_definition : Database.resolveTable definition = .ok made := by
  -- the type is compared apart: evaluated with the whole definition the comparison takes very long
  have hinteger : Sql.sameName "INTEGER" "integer" = true := by
    have hupper : Text.lowerAscii "INTEGER" = "integer" := by decide +kernel
    have hlower : Text.lowerAscii "integer" = "integer" := by decide +kernel
    rw [Sql.sameName, hupper, hlower, beq_self_eq_true]
  have hcolumns : definition.columns.mapM Database.columnOf = .ok made.columns := by decide +kernel
  refine Database.resolveTable_numbered (by decide +kernel) hcolumns (by decide +kernel)
    (by decide +kernel : _ = Except.ok [0]) ?_ (fun t => rfl) rfl (fun t => rfl) rfl
  simp only [definition, List.getElem?_cons_zero, Option.map_some, Option.getD_some, hinteger]

theorem laid_holding (h : Numbered ds) : Laid (holding ds) where
  columns := by
    change columnNames.map made.place? = places.map some
    decide +kernel
  ascending := List.pairwise_map.mpr h.ascending

theorem textAt_ofString {row : List Value} {i : Nat} {x : String} (h : row[i]? = some (.ofString x)) :
    textAt i row = .ok x := by
  simp only [textAt, h, Value.ofString, Text.fromUTF8?_toUTF8]

theorem ofRow_rowOf (h : Timestamp.isValid d.createdAt = true) :
    ofRow (shown (rowOf d)) = .ok d := by
  have hid : (shown (rowOf d))[0]? = some (.integer d.id) := rfl
  have h1 : textAt 1 (shown (rowOf d)) = .ok d.name := textAt_ofString rfl
  have h2 : textAt 2 (shown (rowOf d)) = .ok d.method := textAt_ofString rfl
  have h3 : textAt 3 (shown (rowOf d)) = .ok d.credential := textAt_ofString rfl
  have h4 : textAt 4 (shown (rowOf d)) = .ok d.sqlTemplate := textAt_ofString rfl
  have h5 : textAt 5 (shown (rowOf d)) = .ok d.createdAt := textAt_ofString rfl
  simp only [ofRow, hid, h1, h2, h3, h4, h5, h, bind, Except.bind, pure, Except.pure, if_true]

theorem mapM_ofRow (h : ∀ d ∈ ds, Timestamp.isValid d.createdAt = true) :
    ((ds.map rowOf).map shown).mapM ofRow = .ok ds := by
  induction ds with
  | nil => rfl
  | cons d ds ih =>
    have hd := ofRow_rowOf (h d List.mem_cons_self)
    have hrest := ih fun e he => h e (List.mem_cons_of_mem _ he)
    simp only [List.map_cons, List.mapM_cons, hd, hrest, bind, Except.bind, pure, Except.pure]

section Insertion

variable {rows : List TableRow} {r : TableRow}

theorem insertRow_of_lt (h : ∀ s ∈ rows, s.id < r.id) : Table.insertRow r rows = rows ++ [r] := by
  induction rows with
  | nil => rfl
  | cons s rows ih =>
    have hs := h s List.mem_cons_self
    have hrest := ih fun u hu => h u (List.mem_cons_of_mem _ hu)
    rw [Table.insertRow, if_neg (by omega), hrest, List.cons_append]

theorem nextId?_numbered (h : Numbered ds) : (holding ds).nextId? =
    if (ds.length : Int) < Value.greatestInteger then some ((ds.length : Int) + 1) else none := by
  have hlast : (((holding ds).rows.getLast?).map TableRow.id).getD 0 = ds.length := by
    rw [← h.last, holding, List.getLast?_map, Option.map_map]
    rfl
  have hauto : (holding ds).autoincrement = true := rfl
  have hused : (holding ds).lastId = ds.length := rfl
  simp only [Table.nextId?, hlast, hauto, hused, if_true, max_self]
  rfl

theorem nextId?_holding (h : Numbered ds) (hroom : (ds.length : Int) < Value.greatestInteger) :
    (holding ds).nextId? = some ((ds.length : Int) + 1) := by
  rw [nextId?_numbered h, if_pos hroom]

theorem receive_holding (h : Numbered ds) (hd : d.id = ds.length + 1) :
    ((holding ds).useId d.id).receive .abort (rowOf d) =
      .put (holding (ds ++ [d])) (rowOf d) := by
  have hlt : ∀ s ∈ ds.map rowOf, s.id < (rowOf d).id := by
    intro s hs
    obtain ⟨e, he, rfl⟩ := List.mem_map.mp hs
    have hle := h.id_le he
    have hid : (rowOf e).id = e.id ∧ (rowOf d).id = d.id := ⟨rfl, rfl⟩
    omega
  have hnull : ((holding ds).useId d.id).firstNull? (rowOf d).cells = none := rfl
  have hcells : ((((holding ds).useId d.id).columns.zip (rowOf d).cells).map fun p =>
      p.1.affinity.store p.2) = (rowOf d).cells := rfl
  have hcheck : ((holding ds).useId d.id).firstFailedCheck? (rowOf d) = none := rfl
  -- no row has the new number, and the one index is not unique
  have hrivals : ((holding ds).useId d.id).rivals (rowOf d) = [] := by
    have hother : (ds.map rowOf).filter (·.id == (rowOf d).id) = [] := by
      rw [List.filter_eq_nil_iff]
      intro s hs
      have hs := hlt s hs
      simp only [beq_iff_eq]
      omega
    simp [Table.rivals, Table.useId, holding, hother, index]
  have hadd : ((holding ds).useId d.id).addRow (rowOf d) = holding (ds ++ [d]) := by
    have hlast : max (ds.length : Int) d.id = ((ds ++ [d]).length : Nat) := by
      rw [List.length_append, List.length_singleton]
      omega
    simp only [Table.addRow, Table.useId, holding, insertRow_of_lt hlt, hlast, List.map_append,
      List.map_cons, List.map_nil]
  simp only [Table.receive, reduceCtorEq, if_false, hnull, hcells, hcheck, hrivals, hadd]

def source : Sql.RowSource :=
  ⟨.literal .null, .literal .null :: (List.range 5).map .parameter⟩

def insertion : Insertion := ⟨name, .abort, [source], []⟩

theorem resolve_addition (ht : db.find? name = some (holding ds)) :
    db.resolve addition = .ok (.insert insertion) := by
  have hrequire : db.require name = .ok (holding ds) := by
    rw [Database.require, ht]
  have hgiven : Database.givenColumns (holding ds) (some (columnNames.drop 1)) =
      .ok (places.drop 1) := by
    change Database.givenColumns made (some (columnNames.drop 1)) = _
    decide +kernel
  have hvalues : ((List.range 5).map Expr.parameter).mapM (Sql.Names.resolveSingle {}) =
      .ok ((List.range 5).map Expr.parameter) := rfl
  have hsource : Database.rowSource (holding ds) (places.drop 1) ((List.range 5).map .parameter) =
      source := rfl
  simp only [Database.resolve, addition, Database.resolveInsert, hrequire, hgiven, hvalues, hsource,
    bind, Except.bind, pure, Except.pure, List.mapM_cons, List.mapM_nil]
  rfl

theorem grows_holding (ds more : List Definition) : (holding ds).Grows (holding (ds ++ more)) where
  columns := rfl
  idColumn := rfl
  primaryKey := rfl
  indexes := fun _ h => h
  rows := by
    rw [holding, holding, List.map_append]
    exact List.subset_append_left _ _

def parametersOf (d : Definition) : Bindings :=
  bindings [d.name, d.method, d.credential, d.sqlTemplate, d.createdAt]

theorem step_insertion (ht : db.find? name = some (holding ds)) (h : Numbered ds)
    (hroom : (ds.length : Int) < Value.greatestInteger) (hd : d.id = ds.length + 1) :
    insertion.step (parametersOf d).value { db } source =
      .ok { db := db.update (holding (ds ++ [d])), changed := 1, lastId := some d.id } := by
  have ht' : db.find? insertion.table = some (holding ds) := ht
  have hnumber : Sql.rowNumber (holding ds) (source.id.eval { parameters := (parametersOf d).value }) =
      .ok d.id := by
    have hnull : Sql.Affinity.numeric.store
      (source.id.eval { parameters := (parametersOf d).value }) = .null := rfl
    simp only [Sql.rowNumber, hnull, nextId?_holding h hroom, hd]
  have hreceive : ((holding ds).useId d.id).receive insertion.conflict
      ⟨d.id, source.cells.map fun e => e.eval { parameters := (parametersOf d).value }⟩ =
      .put (holding (ds ++ [d])) (rowOf d) := receive_holding h hd
  simp only [Insertion.step, ht', hnumber, bind, Except.bind, hreceive]
  rfl

theorem perform_insertion (ht : db.find? name = some (holding ds)) (h : Numbered ds)
    (hroom : (ds.length : Int) < Value.greatestInteger) (hd : d.id = ds.length + 1) :
    (Sql.Action.insert insertion).perform db (parametersOf d).value =
      .done { db := db.update (holding (ds ++ [d])), changes := some 1, lastId := some d.id } := by
  have hgrown : db.keepsKeys (db.update (holding (ds ++ [d]))) = true :=
    Database.keepsKeys_update (t := holding ds) ht (grows_holding ds [d]) rfl
  have hrun : insertion.run (parametersOf d).value db =
      ({ db := db.update (holding (ds ++ [d])), changed := 1, lastId := some d.id }, none) := by
    have hrows : insertion.rows = [source] := rfl
    simp only [Insertion.run, hrows, Sql.Progress.each, step_insertion ht h hroom hd]
  simp only [Sql.Action.perform, hrun, Sql.Outcome.ofProgress, hgrown, if_true, List.reverse_nil]

end Insertion

section Setup

theorem resolve_lookupIndex (ht : db.find? name = some (holding ds)) (hdb : db.NamesApart) :
    db.resolve (.createIndex lookupIndex true) = .ok .nothing := by
  have hmem : holding ds ∈ db := List.mem_of_find?_eq_some ht
  have hrequire : db.require lookupIndex.table = .ok (holding ds) := by
    rw [Database.require, show lookupIndex.table = name from rfl, ht]
  have hown : Database.isOwnName lookupIndex.name = false := by decide +kernel
  have hfree : db.find? lookupIndex.name = none := by
    rw [Database.find?, List.find?_eq_none]
    intro t htable
    rw [hdb t htable (holding ds) hmem index (List.mem_singleton.mpr rfl) lookupIndex.name rfl]
    exact Bool.false_ne_true
  have htaken : db.hasName lookupIndex.name = true := by
    refine List.any_eq_true.mpr ⟨holding ds, hmem, ?_⟩
    simp [holding, index]
  simp only [Database.resolve, Database.resolveCreateIndex, hrequire, hown, hfree, htaken, bind,
    Except.bind, pure, Except.pure]
  rfl

theorem runStatements_setup (ht : db.find? name = some (holding ds)) (hdb : db.NamesApart) :
    (Connection.ofDatabase db).runStatements setup = (.ok (), .ofDatabase db) := by
  have hmade : db.resolve (.createTable definition true) = .ok .nothing := by
    have hfound : db.find? definition.name = some (holding ds) := ht
    simp [Database.resolve, Database.resolveCreateTable, hfound]
  have htable : (Connection.ofDatabase db).runStatement (.createTable definition true) [] =
      (.ok [], .ofDatabase db) := Connection.runStatement_ofDatabase hmade (by decide) rfl
  have hindex : (Connection.ofDatabase db).runStatement (.createIndex lookupIndex true) [] =
      (.ok [], .ofDatabase db) :=
    Connection.runStatement_ofDatabase (resolve_lookupIndex ht hdb) (by decide) rfl
  simp only [setup, Connection.runStatements, htable, hindex]

theorem find?_made : Database.find? [made] name = some made :=
  List.find?_cons_of_pos (Sql.sameName_self name)

theorem resolve_lookupIndex_made : Database.resolve [made] (.createIndex lookupIndex true) =
    .ok (.createIndex name index) := by
  have hother : Sql.sameName made.name lookupIndex.name = false := by decide +kernel
  have hrequire : Database.require [made] lookupIndex.table = .ok made := by
    rw [Database.require, show lookupIndex.table = name from rfl, find?_made]
  have hown : Database.isOwnName lookupIndex.name = false := by decide +kernel
  have hfree : Database.find? [made] lookupIndex.name = none := by
    simp [Database.find?, hother]
  have huntaken : Database.hasName [made] lookupIndex.name = false := by
    have hnone : made.indexes = [] := rfl
    simp [Database.hasName, hother, hnone]
  have hcolumns : Database.columnIndexes made lookupIndex.columns = .ok index.columns := by
    decide +kernel
  simp only [Database.resolve, Database.resolveCreateIndex, hrequire, hown, hfree, huntaken,
    hcolumns, bind, Except.bind, pure, Except.pure]
  rfl

theorem perform_lookupIndex : (Sql.Action.createIndex name index).perform [made] (Bindings.value []) =
    .done { db := [holding []] } := by
  have hadmits : Database.admitsIndex made index = true := rfl
  have hupdate : Database.update [made] { made with indexes := made.indexes ++ [index] } =
      [holding []] := by
    have hself : Sql.sameName made.name made.name = true := Sql.sameName_self _
    simp only [Database.update, List.map_cons, List.map_nil, hself, if_true]
    rfl
  simp only [Sql.Action.perform, Database.createIndex, find?_made, hadmits, if_true, hupdate]
  rfl

theorem runStatements_setup_nil : (Connection.ofDatabase []).runStatements setup =
    (.ok (), .ofDatabase [holding []]) := by
  have htable : (Connection.ofDatabase []).runStatement (.createTable definition true) [] =
      (.ok [], .ofDatabase [made]) := Connection.runStatement_ofDatabase
        (Database.resolve_createTable_nil resolveTable_definition true) (by decide) rfl
  have hindex : (Connection.ofDatabase [made]).runStatement (.createIndex lookupIndex true) [] =
      (.ok [], .ofDatabase [holding []]) :=
    Connection.runStatement_ofDatabase resolve_lookupIndex_made (by decide) perform_lookupIndex
  simp only [setup, Connection.runStatements, htable, hindex]

end Setup

end EndpointTable

/-- A store that keeps definitions, and only they, as its endpoints, and that nobody has locked. -/
structure Store.Keeps (s : Store) (ds : List Definition) : Prop where
  unlocked : s.lock = none
  database : s.medium = .database s.tables
  endpoints : s.tables.find? EndpointTable.name = some (EndpointTable.holding ds)
  apart : s.tables.NamesApart

namespace Store

open EndpointTable

variable {s : Store} {ds : List Definition}

theorem connect_of_unlocked {db : Database} (hm : s.medium = .database db) (hl : s.lock = none) :
    s.connect = .ok (.ofDatabase db) := by
  unfold Store.connect
  rw [hm, hl]
  rfl

theorem Keeps.connect (h : s.Keeps ds) : s.connect = .ok (.ofDatabase s.tables) :=
  connect_of_unlocked h.database h.unlocked

theorem Keeps.read (h : s.Keeps ds) : (accessUnder s.lock).read = .ok () := by
  rw [h.unlocked]
  rfl

theorem tables_closing (h : s.medium = .database s.tables) (c : Connection) :
    (s.closing c).medium = .database c.committed ∧ (s.closing c).tables = c.committed ∧
      (s.closing c).lock = s.lock := by
  unfold closing
  rw [h]
  exact ⟨rfl, rfl, rfl⟩

theorem Keeps.addDefinition (h : s.Keeps ds) (hn : Numbered ds)
    (hroom : (ds.length : Int) < Value.greatestInteger) {d : Definition} (hd : d.id = ds.length + 1) :
    (s.addDefinition d.createdAt ⟨d.name, d.method, d.credential, d.sqlTemplate⟩).1 = .ok d.id ∧
      (s.addDefinition d.createdAt ⟨d.name, d.method, d.credential, d.sqlTemplate⟩).2.Keeps
        (ds ++ [d]) := by
  have hrun := Connection.runStatement_ofDatabase (resolve_addition h.endpoints) (by decide)
    (perform_insertion h.endpoints hn hroom hd)
  have hadded : s.addDefinition d.createdAt ⟨d.name, d.method, d.credential, d.sqlTemplate⟩ =
      (.ok d.id, s.closing (.ofDatabase (s.tables.update (holding (ds ++ [d]))))) := by
    have hbindings : bindings [d.name, d.method, d.credential, d.sqlTemplate, d.createdAt] =
      parametersOf d := rfl
    simp only [Store.addDefinition, h.connect, hbindings, hrun]
    rfl
  rw [hadded]
  obtain ⟨hmedium, htables, hlock⟩ :=
    tables_closing h.database (.ofDatabase (s.tables.update (holding (ds ++ [d]))))
  have hfound : (s.tables.update (holding (ds ++ [d]))).find? EndpointTable.name =
      some (holding (ds ++ [d])) := Database.find?_update_own (t := holding ds) h.endpoints
  refine ⟨rfl, hlock.trans h.unlocked, hmedium.trans (congrArg _ htables.symm), ?_, ?_⟩
  · rw [htables]
    exact hfound
  · have hkept := Store.addDefinition_kept Database.namesApart_kept h.apart d.createdAt
      ⟨d.name, d.method, d.credential, d.sqlTemplate⟩
    rwa [hadded] at hkept

theorem open_of_setup {c c' : Connection} (hc : s.connect = .ok c)
    (hrun : c.runStatements setup = (.ok (), c')) : s.open? = (.ok (), s.closing c') := by
  simp only [Store.open?, hc, hrun, Except.mapError]

theorem Keeps.open_eq (h : s.Keeps ds) : s.open? = (.ok (), s) := by
  have hclosing : s.closing (.ofDatabase s.tables) = s := keeping_tables s
  rw [open_of_setup h.connect (runStatements_setup h.endpoints h.apart), hclosing]

theorem keeps_of_open (hm : s.medium = .database []) (hl : s.lock = none) :
    s.open?.1 = .ok () ∧ s.open?.2.Keeps [] := by
  have hopened := open_of_setup (connect_of_unlocked hm hl) runStatements_setup_nil
  have htables : s.tables = [] := by rw [Store.tables, hm]
  have hapart := Store.open_kept (s := s) Database.namesApart_kept
    (htables ▸ Database.namesApart_kept.nil)
  obtain ⟨hmedium, hkept, hlock⟩ :=
    tables_closing (s := s) (htables ▸ hm) (.ofDatabase [holding []])
  have hfound : Database.find? [holding []] EndpointTable.name = some (holding []) :=
    List.find?_cons_of_pos (Sql.sameName_self EndpointTable.name)
  rw [hopened] at hapart ⊢
  exact ⟨rfl, hlock.trans hl, hmedium.trans (congrArg _ hkept.symm), hkept ▸ hfound, hapart⟩

theorem Keeps.resolve (h : s.Keeps ds) (hn : Numbered ds)
    (htimes : ∀ d ∈ ds, Timestamp.isValid d.createdAt = true) (key : EndpointKey)
    (credential : String) :
    s.resolve key credential = .ok (ds.find? fun d => d.Answers key credential) := by
  have hmeets : ∀ d ∈ ds, meets key credential (rowOf d) = decide (d.Answers key credential) := by
    intro d hd
    rw [Bool.eq_iff_iff, decide_eq_true_iff]
    exact meets_iff (ofRow_rowOf (htimes d hd)) key credential
  have hfind : (holding ds).rows.find? (meets key credential) =
      (ds.find? fun d => d.Answers key credential).map rowOf := by
    rw [holding, List.find?_map]
    exact congrArg _ (List.find?_congr hmeets)
  have hresolve := Store.resolve_eq h.database h.endpoints (laid_holding hn) key credential
  rw [hresolve, h.read, hfind]
  cases hf : ds.find? fun d => d.Answers key credential with
  | none => rfl
  | some d =>
    have hrow := ofRow_rowOf (htimes d (List.mem_of_find?_eq_some hf))
    simp only [Option.map_some, hrow, Except.map, Except.mapError]

theorem Keeps.list (h : s.Keeps ds) (hn : Numbered ds)
    (htimes : ∀ d ∈ ds, Timestamp.isValid d.createdAt = true) : s.list = .ok ds := by
  have hall : Sql.Retrieval.matching (Bindings.value []) Sql.Names.always (holding ds).rows =
      (holding ds).rows := List.filter_eq_self.mpr fun _ _ => rfl
  have hrows : s.rows listing [] = .ok ((ds.map rowOf).map shown) := by
    rw [listing, rows_select (n := none) h.database h.endpoints (laid_holding hn)
      (rfl : (names (holding ds)).condition none = .ok Sql.Names.always) rfl rfl rfl, h.read, hall]
    rfl
  simp only [Store.list, hrows, mapM_ofRow htimes, Except.mapError]

end Store

end EndpointGate
