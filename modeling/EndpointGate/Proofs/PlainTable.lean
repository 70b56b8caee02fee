import EndpointGate.Proofs.EndpointStore

/-! Tables of one column without a type and under no constraint. A row that is put in goes to the end
with its value as it is, and the values are read in the order in which they were put in. -/

namespace EndpointGate.Sql

structure Table.Plain (t : Table) (column : String) : Prop where
  columns : ∃ default, t.columns = [⟨column, false, .blob, false, default⟩]
  idColumn : t.idColumn = none
  autoincrement : t.autoincrement = false
  checks : t.checks = []
  foreignKeys : t.foreignKeys = []
  indexes : ∀ i ∈ t.indexes, i.unique = false

def numbered (values : List Value) : List TableRow :=
  values.zipIdx.map fun p => ⟨(p.2 : Int) + 1, [p.1]⟩

theorem numbered_concat (values : List Value) (v : Value) :
    numbered (values ++ [v]) = numbered values ++ [⟨(values.length : Int) + 1, [v]⟩] := by
  simp [numbered, List.zipIdx_append]

theorem id_le_of_mem_numbered {values : List Value} {r : TableRow} (hr : r ∈ numbered values) :
    1 ≤ r.id ∧ r.id ≤ values.length := by
  obtain ⟨⟨v, n⟩, hn, rfl⟩ := List.mem_map.mp hr
  have hlt := List.snd_lt_of_mem_zipIdx hn
  simp only at hlt ⊢
  omega

theorem exists_of_id {values : List Value} {n : Nat} (hn : n < values.length) :
    ∃ r ∈ numbered values, r.id = (n : Int) + 1 := by
  refine ⟨⟨(n : Int) + 1, [values[n]]⟩, List.mem_map.mpr ⟨(values[n], n), ?_, rfl⟩, rfl⟩
  exact List.mk_mem_zipIdx_iff_getElem?.mpr (List.getElem?_eq_getElem hn)

namespace Table

variable {t : Table} {column : String} {values : List Value}

/-- The numbers in use have no gap, so that the next one is free even where they have run out. -/
theorem nextId?_numbered (ht : t.Plain column) (hrows : t.rows = numbered values) :
    t.nextId? = some ((values.length : Int) + 1) := by
  have hused : ((t.rows.getLast?).map TableRow.id).getD 0 = values.length := by
    rw [hrows]
    cases values using List.reverseRecOn with
    | nil => rfl
    | append_singleton values v => simp [numbered_concat]
  have hlength : t.rows.length = values.length := by
    rw [hrows, numbered, List.length_map, List.length_zipIdx]
  have htaken : ∀ n : Nat, (t.row? ((n : Int) + 1)).isNone = true ↔ values.length ≤ n := by
    intro n
    rw [Option.isNone_iff_eq_none, row?, List.find?_eq_none, hrows]
    constructor
    · intro h
      by_contra hlt
      obtain ⟨r, hr, hid⟩ := exists_of_id (show n < values.length by omega)
      exact h r hr (beq_iff_eq.mpr hid)
    · intro hle r hr hid
      have := (id_le_of_mem_numbered hr).2
      have := beq_iff_eq.mp hid
      omega
  simp only [nextId?, ht.autoincrement, hused, hlength, Bool.false_eq_true, if_false]
  split
  · rfl
  · -- the greatest number is in use, and so is every number below it
    have hfirst : (List.range (values.length + 1)).find? (fun n : Nat =>
        (t.row? ((n : Int) + 1)).isNone) = some values.length := by
      rw [List.find?_range_eq_some]
      refine ⟨(htaken _).mpr (Nat.le_refl _), List.mem_range.mpr (Nat.lt_succ_self _), ?_⟩
      intro n hn
      rw [Bool.not_eq_true', Bool.eq_false_iff, Ne, htaken]
      omega
    have hshift : ((fun n : Int => (t.row? n).isNone) ∘ fun n : Nat => Int.ofNat (n + 1)) =
        fun n : Nat => (t.row? ((n : Int) + 1)).isNone := rfl
    rw [List.find?_map, hshift, hfirst]
    rfl

theorem receive_plain (ht : t.Plain column) (hrows : t.rows = numbered values) (v : Value) :
    (t.useId (values.length + 1)).receive .abort ⟨(values.length : Int) + 1, [v]⟩ =
      .put ((t.useId (values.length + 1)).addRow ⟨(values.length : Int) + 1, [v]⟩)
        ⟨(values.length : Int) + 1, [v]⟩ := by
  obtain ⟨default, hcolumns⟩ := ht.columns
  have hnull : (t.useId (values.length + 1)).firstNull? [v] = none := by
    simp [firstNull?, useId, hcolumns]
  have hstored : (((t.useId (values.length + 1)).columns.zip [v]).map fun p =>
      p.1.affinity.store p.2) = [v] := by
    simp [useId, hcolumns, Affinity.store]
  have hcheck : (t.useId (values.length + 1)).firstFailedCheck? ⟨(values.length : Int) + 1, [v]⟩ =
      none := by
    simp [firstFailedCheck?, useId, ht.checks]
  have hrivals : (t.useId (values.length + 1)).rivals ⟨(values.length : Int) + 1, [v]⟩ = [] := by
    have hnumber : (numbered values).filter (·.id == (values.length : Int) + 1) = [] := by
      rw [List.filter_eq_nil_iff]
      intro r hr
      have := (id_le_of_mem_numbered hr).2
      simp only [beq_iff_eq]
      omega
    have hindexes : (t.useId (values.length + 1)).indexes = t.indexes := rfl
    simp only [rivals, useId, hrows, hnumber, List.map_nil, List.nil_append,
      List.flatMap_eq_nil_iff]
    intro i hi
    rw [if_neg (by rw [ht.indexes i hi]; decide)]
  simp only [receive, reduceCtorEq, if_false, hnull, hstored, hcheck, hrivals]

def withRow (t : Table) (values : List Value) (v : Value) : Table :=
  (t.useId (values.length + 1)).addRow ⟨(values.length : Int) + 1, [v]⟩

theorem plain_withRow (ht : t.Plain column) (v : Value) : (t.withRow values v).Plain column :=
  ⟨ht.columns, ht.idColumn, ht.autoincrement, ht.checks, ht.foreignKeys, ht.indexes⟩

theorem rows_withRow (hrows : t.rows = numbered values) (v : Value) :
    (t.withRow values v).rows = numbered (values ++ [v]) := by
  have hlt : ∀ r ∈ numbered values, r.id < (values.length : Int) + 1 := by
    intro r hr
    have := (id_le_of_mem_numbered hr).2
    omega
  rw [numbered_concat, ← EndpointTable.insertRow_of_lt hlt, ← hrows]
  rfl

theorem grows_withRow (hrows : t.rows = numbered values) (v : Value) :
    t.Grows (t.withRow values v) where
  columns := rfl
  idColumn := rfl
  primaryKey := rfl
  indexes := fun _ h => h
  rows := by
    rw [rows_withRow hrows, hrows, numbered_concat]
    exact List.subset_append_left _ _

end Table

def Database.Holds (db : Database) (table column : String) (values : List Value) : Prop :=
  ∃ t, db.find? table = some t ∧ t.Plain column ∧ t.rows = numbered values

section Addition

variable {db : Database} {t : Table} {table column : String} {values : List Value}

def parameterRow : RowSource := ⟨.literal .null, [.parameter 0]⟩

theorem resolve_parameterRow (ht : t.Plain column) (hfound : db.find? table = some t) :
    db.resolve (.insert .abort table none [[.parameter 0]] []) =
      .ok (.insert ⟨t.name, .abort, [parameterRow], []⟩) := by
  obtain ⟨default, hcolumns⟩ := ht.columns
  have hrequire : db.require table = .ok t := by rw [Database.require, hfound]
  have hgiven : Database.givenColumns t none = .ok [⟨some 0, .blob⟩] := by
    simp [Database.givenColumns, Table.placeAt, hcolumns, ht.idColumn]
  have hsource : Database.rowSource t [⟨some 0, .blob⟩] [.parameter 0] = parameterRow := by
    simp [Database.rowSource, hcolumns, ht.idColumn, parameterRow]
  have hvalue : [Expr.parameter 0].mapM (Names.resolveSingle {}) = .ok [.parameter 0] := rfl
  simp only [Database.resolve, Database.resolveInsert, hrequire, hgiven, hvalue, hsource,
    ht.foreignKeys, bind, Except.bind, pure, Except.pure, List.mapM_cons, List.mapM_nil]
  rfl

theorem step_parameterRow (ht : t.Plain column) (hfound : db.find? t.name = some t)
    (hrows : t.rows = numbered values) (v : Nat → Value) :
    Insertion.step ⟨t.name, .abort, [parameterRow], []⟩ v { db } parameterRow =
      .ok { db := db.update (t.withRow values (v 0)), changed := 1
            lastId := some ((values.length : Int) + 1) } := by
  have hnumber : rowNumber t (parameterRow.id.eval { parameters := v }) =
      .ok ((values.length : Int) + 1) := by
    have hnull : Affinity.numeric.store (parameterRow.id.eval { parameters := v }) = .null := rfl
    simp only [rowNumber, hnull, Table.nextId?_numbered ht hrows]
  have hcells : parameterRow.cells.map (fun e => e.eval { parameters := v }) = [v 0] := rfl
  simp only [Insertion.step, hfound, hnumber, bind, Except.bind, hcells,
    Table.receive_plain ht hrows]
  rfl

theorem Database.Holds.insert (h : db.Holds table column values) (v : Nat → Value) :
    ∃ a e, db.resolve (.insert .abort table none [[.parameter 0]] []) = .ok a ∧
      a.perform db v = .done e ∧ e.changes = some 1 ∧
      e.db.Holds table column (values ++ [v 0]) := by
  obtain ⟨t, hfound, ht, hrows⟩ := h
  have hown : db.find? t.name = some t := Database.find?_own_name hfound
  have hnamed : db.find? (t.withRow values (v 0)).name = some t := hown
  have hgrown : db.keepsKeys (db.update (t.withRow values (v 0))) = true :=
    Database.keepsKeys_update hnamed (Table.grows_withRow hrows _) ht.foreignKeys
  have hrun : Insertion.run ⟨t.name, .abort, [parameterRow], []⟩ v db =
      ({ db := db.update (t.withRow values (v 0)), changed := 1
         lastId := some ((values.length : Int) + 1) }, none) := by
    simp only [Insertion.run, Progress.each, step_parameterRow ht hown hrows]
  have hkept : (db.update (t.withRow values (v 0))).find? table = some (t.withRow values (v 0)) :=
    (Database.find?_congr (Database.sameName_of_find? hfound)).symm.trans
      (Database.find?_update_own hnamed)
  refine ⟨_, { db := db.update (t.withRow values (v 0)), changes := some 1
               lastId := some ((values.length : Int) + 1) },
    resolve_parameterRow ht hfound, ?_, rfl, _, hkept, Table.plain_withRow ht _,
    Table.rows_withRow hrows _⟩
  simp only [Action.perform, hrun, Outcome.ofProgress, hgrown, if_true, List.reverse_nil]

end Addition

section Selection

variable {db : Database} {t : Table} {table column : String} {values : List Value}

def oneColumn (table column : String) : Query :=
  ⟨[.one (.column ⟨none, column, false⟩) none column], some (table, none), none, [], none, none⟩

def wholeColumn (table column : String) : Retrieval :=
  ⟨some table, [⟨column, .column ⟨some 0, .blob⟩⟩], Names.always, [], none, none⟩

theorem Table.place?_plain (ht : t.Plain column) : t.place? column = some ⟨some 0, .blob⟩ := by
  obtain ⟨default, hcolumns⟩ := ht.columns
  simp [Table.place?, Table.columnIndex?, hcolumns, ht.idColumn, sameName_self]

theorem resolve_oneColumn (ht : t.Plain column) (hfound : db.find? table = some t) :
    db.resolve (.select (oneColumn table column)) = .ok (.select (wholeColumn t.name column)) := by
  have hrequire : db.require table = .ok t := by rw [Database.require, hfound]
  have hplace := Table.place?_plain ht
  have hname : t.placeName ⟨some 0, .blob⟩ = column := by
    obtain ⟨default, hcolumns⟩ := ht.columns
    simp [Table.placeName, hcolumns]
  simp [Database.resolve, Database.resolveSelect, oneColumn, wholeColumn, hrequire, bind, Except.bind,
    pure, Except.pure, Functor.map, Names.outputs, Names.resolve, Names.column, hplace,
    Names.outputName, hname, Names.aliasesOf, Names.condition, Names.always, Expr.counts, Except.map]

theorem le_foldl_add {ns : List Nat} {n start : Nat} (hn : n ∈ ns) :
    start + n ≤ ns.foldl (· + ·) start := by
  calc start + n ≤ start + ns.sum := Nat.add_le_add_left (List.le_sum_of_mem hn) start
    _ = ns.foldl (· + ·) (start + 0) := by rw [List.foldl_assoc, List.sum_eq_foldl_nat]

/-- The rows come as they stand: no index on the column takes less room than the table itself. -/
theorem Table.scan_plain (ht : t.Plain column) : t.scan Names.always [] [0] = t.rows := by
  obtain ⟨default, hcolumns⟩ := ht.columns
  have hwidth : t.width = 2 := by
    simp [Table.width, hcolumns, ht.idColumn, Table.columnWidth]
  have hcovering : (t.indexes.find? fun i =>
      [0].all i.columns.contains && t.indexWidth i < t.width) = none := by
    rw [List.find?_eq_none]
    intro i _ hi
    rw [hwidth] at hi
    simp only [List.all_cons, List.all_nil, Bool.and_true, List.contains_iff_mem, Bool.and_eq_true,
      decide_eq_true_iff] at hi
    have hroom : 1 + 1 ≤ t.indexWidth i :=
      le_foldl_add (List.mem_map.mpr ⟨0, hi.1, by simp [hcolumns, Table.columnWidth]⟩)
    omega
  have hfixed : Table.byNumber Names.always = false := rfl
  have hcondition : t.pathFor Names.always [0] = none := by
    simp [Table.pathFor, Table.indexFor, Table.indexFrom, Names.always, Expr.conjuncts,
      Expr.comparedColumn?, Expr.memberColumn?, Expr.presentColumn?, Expr.disjuncts]
  have hsorted : (t.indexes.find? fun i =>
      Table.sortedBy i [] false || Table.sortedBy i [] true) = none := by
    simp [Table.sortedBy]
  simp only [Table.scan, hfixed, hcondition, hsorted, hcovering, Bool.false_eq_true, if_false,
    Option.none_or]

theorem rows_wholeColumn (ht : t.Plain column) (hfound : db.find? t.name = some t)
    (hrows : t.rows = numbered values) (v : Nat → Value) :
    (wholeColumn t.name column).rows db v = .ok (values.map fun x => [x]) := by
  have hmet : (wholeColumn t.name column).met v [] t = t.rows := by
    have hall : Retrieval.matching v Names.always t.rows = t.rows :=
      List.filter_eq_self.mpr fun _ _ => rfl
    exact (congrArg _ (Table.scan_plain ht)).trans hall
  -- with nothing to sort by, rows are sorted as they stand
  have hchosen : (wholeColumn t.name column).chosen v t = t.rows :=
    (congrArg (fun rows => List.mergeSort rows _) hmet).trans
      (List.mergeSort_of_pairwise (List.pairwise_of_forall fun _ _ => rfl))
  have hshown : (numbered values).map (fun r =>
      Retrieval.row (Retrieval.rowScope v r) (wholeColumn t.name column).output) =
      values.map fun x => [x] := by
    calc (numbered values).map _ = (values.zipIdx.map Prod.fst).map fun x => [x] := by
          rw [numbered, List.map_map, List.map_map]
          rfl
      _ = values.map fun x => [x] := by rw [List.zipIdx_map_fst]
  have hcounts : (wholeColumn t.name column).counts = false := rfl
  have htable : (wholeColumn t.name column).table.bind db.find? = some t := hfound
  simp only [Retrieval.rows, Retrieval.allRows, htable, hcounts, hchosen, hrows, hshown,
    Bool.false_eq_true, if_false]
  rfl

theorem Database.Holds.select (h : db.Holds table column values) (v : Nat → Value) :
    ∃ r, db.resolve (.select (oneColumn table column)) = .ok (.select r) ∧
      r.output.map Output.name = [column] ∧
      (Action.select r).perform db v = .done { db, rows := values.map fun x => [x] } := by
  obtain ⟨t, hfound, ht, hrows⟩ := h
  have hshown := rows_wholeColumn ht (Database.find?_own_name hfound) hrows v
  refine ⟨_, resolve_oneColumn ht hfound, rfl, ?_⟩
  simp only [Action.perform, hshown, Outcome.ofExcept]

end Selection

end EndpointGate.Sql
