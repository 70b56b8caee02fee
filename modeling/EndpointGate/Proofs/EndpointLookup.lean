import EndpointGate.Endpoint.Registry
import EndpointGate.Proofs.RowOrder
import EndpointGate.Proofs.TableNames
import EndpointGate.Proofs.Transaction

/-! Looking up an endpoint. Both registries answer with the definition of the lowest id among those
with exactly the name, the method and the credential: the one in memory because it keeps the order of
the ids, the one in the store because the statement compares octets and sorts by the rows' numbers. -/

namespace EndpointGate

open Sql (Table TableRow Database Value Names Expr Scope WrittenExpr Retrieval Output Affinity
  Failure Bindings)

def Definition.Answers (d : Definition) (key : EndpointKey) (credential : String) : Prop :=
  d.name = key.name ∧ d.method = key.method ∧ d.credential = credential

instance (d : Definition) (key : EndpointKey) (credential : String) :
    Decidable (d.Answers key credential) :=
  inferInstanceAs (Decidable (_ ∧ _ ∧ _))

def lowest? (ds : List Definition) (key : EndpointKey) (credential : String) : Option Definition :=
  let answering := ds.filter fun d => d.Answers key credential
  answering.find? fun d => answering.all fun e => d.id ≤ e.id

theorem answers_of_lowest? {ds : List Definition} {key : EndpointKey} {credential : String}
    {d : Definition} (h : lowest? ds key credential = some d) : d.Answers key credential := by
  have hmem := (List.mem_filter.mp (List.mem_of_find?_eq_some h)).2
  exact of_decide_eq_true hmem

theorem lowest?_of_ascending {ds : List Definition} (h : ds.Pairwise fun a b => a.id < b.id)
    (key : EndpointKey) (credential : String) :
    lowest? ds key credential = ds.find? fun d => d.Answers key credential := by
  have hasc := h.filter fun d => decide (d.Answers key credential)
  rw [← List.head?_filter, lowest?]
  cases hf : ds.filter fun d => decide (d.Answers key credential) with
  | nil => rfl
  | cons d rest =>
    rw [hf] at hasc
    have hd : (d :: rest).all (fun e => decide (d.id ≤ e.id)) = true := by
      rw [List.all_eq_true]
      intro e he
      rcases List.mem_cons.mp he with rfl | he
      · simp
      · have hlt := (List.pairwise_cons.mp hasc).1 e he
        exact decide_eq_true (Int.le_of_lt hlt)
    exact List.find?_cons_of_pos hd

section Credential

theorem agreeThroughout_iff {a b : List UInt8} (h : a.length = b.length) :
    agreeThroughout a b = true ↔ a = b := by
  induction a generalizing b with
  | nil => simp [agreeThroughout, List.length_eq_zero_iff.mp h.symm]
  | cons x a ih =>
    cases b with
    | nil => simp at h
    | cons y b =>
      have ih' := ih (Nat.succ.inj h)
      simp [agreeThroughout, ih', and_comm]

theorem toUTF8_octets_inj {a b : String} (h : a.toUTF8.data.toList = b.toUTF8.data.toList) : a = b := by
  have harr : a.toUTF8 = b.toUTF8 := ByteArray.ext (Array.toList_inj.mp h)
  exact String.toByteArray_inj.mp harr

theorem sameSecret_iff (a b : String) : sameSecret a b = true ↔ a = b := by
  simp only [sameSecret, Bool.and_eq_true, beq_iff_eq]
  constructor
  · rintro ⟨hl, ha⟩
    exact toUTF8_octets_inj ((agreeThroughout_iff hl).mp ha)
  · rintro rfl
    exact ⟨rfl, (agreeThroughout_iff rfl).mpr rfl⟩

theorem Definition.admits_iff (d : Definition) (supplied : String) :
    d.admits supplied = .allowed ↔ d.credential = supplied := by
  rw [← sameSecret_iff, admits]
  split <;> simp_all

end Credential

theorem Memory.resolve_eq (key : EndpointKey) (credential : String) (ds : List Definition) :
    Memory.resolve key credential ds = ds.find? fun d => d.Answers key credential := by
  rw [resolve, List.find?_filter]
  congr 1
  funext d
  rw [Bool.eq_iff_iff, decide_eq_true_iff (p := d.Answers key credential)]
  simp [Definition.Answers, Definition.admits_iff, and_assoc]

namespace EndpointTable

def places : List Sql.Place := ⟨none, .integer⟩ :: (List.range 5).map fun i => ⟨some (i + 1), .text⟩

structure Laid (t : Table) : Prop where
  columns : columnNames.map t.place? = places.map some
  ascending : t.Ascending

def names (t : Table) : Names := { table := some (t, name) }

def isAt (column slot : Nat) : Expr Sql.Place :=
  .binary .eq (.column ⟨some column, .text⟩) (.parameter slot)

def sought : Expr Sql.Place := .binary .and (.binary .and (isAt 1 0) (isAt 2 1)) (isAt 3 2)

def meets (key : EndpointKey) (credential : String) (r : TableRow) : Bool :=
  sought.holds (Retrieval.rowScope (Bindings.value (bindings [key.name, key.method, credential])) r)

def shown (r : TableRow) : List Value :=
  .integer r.id :: (List.range 5).map fun i => r.cells.getD (i + 1) .null

def held (t : Table) : List Definition := t.rows.filterMap fun r => (ofRow (shown r)).toOption

section Resolution

variable {db : Database} {t : Table}

theorem resolve_column {n : String} {p : Sql.Place} (h : t.place? n = some p) :
    (names t).resolve (column n) = .ok (.column p) := by
  simp [names, column, Names.resolve, Names.column, h]

theorem outputs_columns {ns : List String} {ps : List Sql.Place} (h : ns.map t.place? = ps.map some) :
    ∃ os, (names t).outputs (ns.map fun n => .one (column n) none n) = .ok os ∧
      os.map Output.value = ps.map .column := by
  induction ns generalizing ps with
  | nil =>
    obtain rfl := List.map_eq_nil_iff.mp h.symm
    exact ⟨[], rfl, rfl⟩
  | cons n ns ih =>
    cases ps with
    | nil => simp at h
    | cons p ps =>
      simp only [List.map_cons, List.cons.injEq] at h
      obtain ⟨os, hos, hv⟩ := ih h.2
      have hp := resolve_column h.1
      refine ⟨⟨(names t).outputName (.column p) none n, .column p⟩ :: os, ?_, by simp [hv]⟩
      simp [Names.outputs, hp, hos, bind, Except.bind, pure, Except.pure]

theorem aliasesOf_columns (n : Names) (ns : List String) :
    n.aliasesOf (ns.map fun c => .one (column c) none c) = .ok [] := by
  induction ns with
  | nil => rfl
  | cons c ns ih => exact ih

theorem resolve_select (ht : db.find? name = some t) (h : Laid t)
    {condition limit : Option WrittenExpr} {c : Expr Sql.Place} {l : Option (Expr Sql.Place)}
    (hc : (names t).condition condition = .ok c) (hn : c.counts = false)
    (hl : limit.mapM (Names.resolveSingle {}) = .ok l) :
    ∃ r, db.resolve (select condition limit) = .ok (.select r) ∧ r.table = some t.name ∧
      r.output.map Output.value = places.map .column ∧ r.condition = c ∧
      r.order = Retrieval.byNumber ∧ r.limit = l ∧ r.offset = none := by
  obtain ⟨os, hos, hv⟩ := outputs_columns h.columns
  have hid := resolve_column (List.cons.inj h.columns).1
  have ha := aliasesOf_columns (names t) columnNames
  have hsort : (names t).sortTerm os ⟨column "id", false⟩ =
      .ok ⟨.column ⟨none, .integer⟩, false⟩ := by
    have haliases : (names t).aliases = [] := rfl
    simp only [column, Names.resolve] at hid
    simp [Names.sortTerm, column, Names.position?, haliases, hid, Except.map]
  refine ⟨⟨some t.name, os, c, Retrieval.byNumber, l, none⟩, ?_, rfl, hv, rfl, rfl, rfl, rfl⟩
  simp only [names] at hos ha hc hsort
  simp [select, Database.resolve, Database.resolveSelect, Database.require, ht, bind, Except.bind,
    pure, Except.pure, Functor.map, hos, ha, hc, hn, hl, hsort, Retrieval.byNumber, Except.map,
    Expr.counts]

theorem condition_lookup (h : Laid t) :
    (names t).condition (some (.binary .and (.binary .and (isParameter "endpoint_name" 0)
      (isParameter "method" 1)) (isParameter "credential" 2))) = .ok sought := by
  have hcols := h.columns
  simp only [columnNames, places, List.range, List.range.loop, List.map_cons, List.map_nil,
    List.cons.injEq] at hcols
  obtain ⟨-, h1, h2, h3, -⟩ := hcols
  have hcounts : ∀ n, (column n).counts = false := fun _ => rfl
  simp [hcounts, Names.condition, Names.resolveSingle, isParameter, Names.resolve, Expr.counts,
    resolve_column h1, resolve_column h2, resolve_column h3, bind, Except.bind, pure, Except.pure,
    sought, isAt]

end Resolution

section Comparison

theorem compareOctets_eq_iff (a b : List UInt8) : Sql.compareOctets a b = .eq ↔ a = b := by
  induction a generalizing b with
  | nil => cases b <;> simp [Sql.compareOctets]
  | cons x a ih =>
    cases b with
    | nil => simp [Sql.compareOctets]
    | cons y b => simp [Sql.compareOctets, Ordering.then_eq_eq, ih]

theorem compareWith_text_iff (v : Value) (octets : ByteArray) :
    (Value.compareWith (· == .eq) v (.text octets)).truth = some true ↔ v = .text octets := by
  cases v with
  | null => simp [Value.compareWith, Value.truth]
  | text u =>
    have hiff : u.data.toList = octets.data.toList ↔ u = octets := by
      rw [Array.toList_inj]
      exact ⟨ByteArray.ext, fun h => h ▸ rfl⟩
    by_cases h : u = octets <;>
      simp [Value.compareWith, Value.order, Value.ofBool, Value.truth, compareOctets_eq_iff, hiff, h]
  | integer n | real x | blob u =>
    simp [Value.compareWith, Value.order, Value.kindRank, Value.ofBool, Value.truth]

theorem holds_and (s : Scope) (a b : Expr Sql.Place) :
    (Expr.binary .and a b).holds s = true ↔ a.holds s = true ∧ b.holds s = true := by
  have htruth : ∀ o : Option Bool, (Value.ofTruth o).truth = o := by
    rintro (_ | _ | _) <;> rfl
  simp only [Expr.holds, Expr.eval, Sql.BinaryOp.isComparison, Sql.BinaryOp.apply, beq_iff_eq]
  rcases (a.eval s).truth with _ | _ | _ <;> rcases (b.eval s).truth with _ | _ | _ <;>
    simp [Value.conj, htruth]

theorem isAt_holds {s : Scope} {slot : Nat} {text : String} (hs : s.parameters slot = .ofString text)
    (column : Nat) :
    (isAt column slot).holds s = true ↔
      Affinity.text.store (s.cells.getD column .null) = .ofString text := by
  rw [Value.ofString, ← compareWith_text_iff]
  simp [isAt, Expr.holds, Expr.eval, Sql.BinaryOp.isComparison, Sql.BinaryOp.apply, Expr.affinity?,
    Affinity.forComparison, Affinity.prepare, hs, Value.ofString, Affinity.store]

end Comparison

section Rows

variable {db : Database} {t : Table} {s : Store} {b : Bindings}

theorem rows_select (hm : s.medium = .database db) (ht : db.find? name = some t) (h : Laid t)
    {condition limit : Option WrittenExpr} {c : Expr Sql.Place} {l : Option (Expr Sql.Place)}
    (hc : (names t).condition condition = .ok c) (hn : c.counts = false)
    (hl : limit.mapM (Names.resolveSingle {}) = .ok l) {n : Option Int}
    (hb : Retrieval.bound b.value l = .ok n) :
    s.rows (select condition limit) b = ((Store.accessUnder s.lock).read.mapError .sql).map fun _ =>
      Retrieval.between n none ((Retrieval.matching b.value c t.rows).map shown) := by
  obtain ⟨r, hres, htable, hout, hcond, horder, hlim, hoff⟩ := resolve_select ht h hc hn hl
  have hcounts : r.counts = false := by
    have hany : r.counts = (r.output.map Output.value).any fun e => e.counts := by
      simp [Retrieval.counts, Function.comp_def]
    rw [hany, hout]
    rfl
  have hshown : ∀ f, Retrieval.row (Retrieval.rowScope b.value f) r.output = shown f := by
    intro f
    have hrow : Retrieval.row (Retrieval.rowScope b.value f) r.output =
        (r.output.map Output.value).map fun e => e.eval (Retrieval.rowScope b.value f) := by
      simp [Retrieval.row, Function.comp_def]
    rw [hrow, hout]
    rfl
  have hrows := Retrieval.rows_byNumber htable (Database.find?_own_name ht) h.ascending hcounts horder hoff
    (hlim ▸ hb)
  simp only [hshown, hcond] at hrows
  simp only [Store.rows, Store.connect, hm, bind, Except.bind]
  have hread := Sql.Connection.runStatement_select
    (c := { committed := db, working := db, access := Store.accessUnder s.lock }) rfl hres hrows
  rw [hread]
  cases (Store.accessUnder s.lock).read <;> rfl

theorem rows_lookup (hm : s.medium = .database db) (ht : db.find? name = some t) (h : Laid t)
    (key : EndpointKey) (credential : String) :
    s.rows lookup (bindings [key.name, key.method, credential]) =
      ((Store.accessUnder s.lock).read.mapError .sql).map fun _ =>
        (t.rows.find? (meets key credential)).toList.map shown := by
  have hl : (some (.literal (.integer 1))).mapM (Names.resolveSingle {}) =
      .ok (some (.literal (.integer 1))) := rfl
  have hb : ∀ v, Retrieval.bound v (some (.literal (.integer 1))) = .ok (some 1) := fun _ => rfl
  rw [← List.head?_filter, ← List.take_one, List.map_take]
  exact rows_select hm ht h (condition_lookup h) rfl hl (hb _)

end Rows

section Decoding

theorem textAt_eq_ok {row : List Value} {i : Nat} {x : String} (h : textAt i row = .ok x) :
    row[i]? = some (.ofString x) := by
  unfold textAt at h
  split at h
  · rename_i octets hrow
    split at h
    · rename_i y hy
      obtain rfl := Except.ok.inj h
      unfold String.fromUTF8? at hy
      split at hy
      · obtain rfl := Option.some.inj hy
        exact hrow
      · cases hy
    · cases h
  · cases h

theorem ofRow_shown {r : TableRow} {d : Definition} (h : ofRow (shown r) = .ok d) :
    d.id = r.id ∧ r.cells.getD 1 .null = .ofString d.name ∧
      r.cells.getD 2 .null = .ofString d.method ∧ r.cells.getD 3 .null = .ofString d.credential := by
  have hid : (shown r)[0]? = some (.integer r.id) := rfl
  have hcell : ∀ i x, (shown r)[i + 1]? = some (.ofString x) →
      r.cells.getD (i + 1) .null = .ofString x := by
    intro i x hx
    by_cases hi : i < 5
    · simpa [shown, hi] using hx
    · simp [shown, hi] at hx
  simp only [ofRow, hid] at h
  obtain ⟨n, hn, h⟩ := Sql.bind_eq_ok h
  obtain ⟨m, hm, h⟩ := Sql.bind_eq_ok h
  obtain ⟨c, hc, h⟩ := Sql.bind_eq_ok h
  obtain ⟨q, -, h⟩ := Sql.bind_eq_ok h
  obtain ⟨a, -, h⟩ := Sql.bind_eq_ok h
  split at h
  · obtain rfl := Except.ok.inj h
    exact ⟨rfl, hcell 0 n (textAt_eq_ok hn), hcell 1 m (textAt_eq_ok hm), hcell 2 c (textAt_eq_ok hc)⟩
  · cases h

theorem meets_texts_iff {r : TableRow} {name method secret : String}
    (hn : r.cells.getD 1 .null = .ofString name) (hm : r.cells.getD 2 .null = .ofString method)
    (hc : r.cells.getD 3 .null = .ofString secret) (key : EndpointKey) (credential : String) :
    meets key credential r = true ↔ name = key.name ∧ method = key.method ∧ secret = credential := by
  have hstore : ∀ x y : String, Affinity.text.store (.ofString x) = .ofString y ↔ x = y := by
    intro x y
    constructor
    · intro he
      exact String.toByteArray_inj.mp (Value.text.inj he)
    · rintro rfl
      rfl
  have hat : ∀ slot x, Bindings.value (bindings [key.name, key.method, credential]) slot =
      .ofString x → ∀ i, (isAt i slot).holds (Retrieval.rowScope
        (Bindings.value (bindings [key.name, key.method, credential])) r) = true ↔
        Affinity.text.store (r.cells.getD i .null) = .ofString x := by
    intro slot x hx i
    exact isAt_holds hx i
  rw [meets, sought, holds_and, holds_and, hat 0 key.name rfl, hat 1 key.method rfl,
    hat 2 credential rfl]
  simp only [hn, hm, hc, hstore, and_assoc]

theorem meets_iff {r : TableRow} {d : Definition} (h : ofRow (shown r) = .ok d)
    (key : EndpointKey) (credential : String) :
    meets key credential r = true ↔ d.Answers key credential := by
  obtain ⟨-, hn, hm, hc⟩ := ofRow_shown h
  exact meets_texts_iff hn hm hc key credential

theorem held_ascending {t : Table} (h : Laid t) : (held t).Pairwise fun a b => a.id < b.id := by
  apply List.Pairwise.filterMap (R := fun a b : TableRow => a.id < b.id) _ _ h.ascending
  intro r r' hlt d hd d' hd'
  have hid : ∀ {r d}, (ofRow (shown r)).toOption = some d → d.id = r.id := by
    intro r d hd
    cases ho : ofRow (shown r) with
    | error f => simp [ho, Except.toOption] at hd
    | ok e =>
      simp only [ho, Except.toOption, Option.some.injEq] at hd
      exact hd ▸ (ofRow_shown ho).1
  rw [hid hd, hid hd']
  exact hlt

end Decoding

end EndpointTable

theorem find?_results {α β : Type} {f : α → Option β} {p : α → Bool} {q : β → Bool} {l : List α}
    (hpq : ∀ a b, f a = some b → q b = p a) (hs : ∀ a, l.find? p = some a → (f a).isSome) :
    (l.filterMap f).find? q = (l.find? p).bind f := by
  induction l with
  | nil => rfl
  | cons a l ih =>
    by_cases hp : p a = true
    · obtain ⟨b, hb⟩ := Option.isSome_iff_exists.mp (hs a (List.find?_cons_of_pos hp))
      have hq : q b = true := (hpq a b hb).trans hp
      simp [hb, hp, hq]
    · rw [List.find?_cons_of_neg hp] at hs ⊢
      rw [← ih hs]
      cases hb : f a with
      | none => simp [hb]
      | some b =>
        have hq : ¬q b = true := by rwa [hpq a b hb]
        simp [hb, hq]

theorem toOption_eq_some {ε α : Type} {x : Except ε α} {a : α} (h : x.toOption = some a) :
    x = .ok a := by
  cases x with
  | error e => cases h
  | ok b => exact congrArg Except.ok (Option.some.inj h)

theorem Store.resolve_eq {s : Store} {db : Database} {t : Table} (hm : s.medium = .database db)
    (ht : db.find? EndpointTable.name = some t) (hl : EndpointTable.Laid t) (key : EndpointKey)
    (credential : String) :
    s.resolve key credential =
      match (accessUnder s.lock).read, t.rows.find? (EndpointTable.meets key credential) with
      | .error f, _ => .error (.store (.sql f))
      | .ok _, none => .ok none
      | .ok _, some r => ((EndpointTable.ofRow (EndpointTable.shown r)).map some).mapError
          fun f => .store (.sql f) := by
  have hrows := EndpointTable.rows_lookup hm ht hl key credential
  unfold resolve
  cases hread : (accessUnder s.lock).read with
  | error f =>
    rw [hread] at hrows
    rw [hrows]
    rfl
  | ok u =>
    rw [hread] at hrows
    cases hf : t.rows.find? (EndpointTable.meets key credential) with
    | none =>
      rw [hf] at hrows
      rw [hrows]
      rfl
    | some r =>
      have hrow : s.rows EndpointTable.lookup
          (EndpointTable.bindings [key.name, key.method, credential]) =
          .ok [EndpointTable.shown r] := by rw [hrows, hf]; rfl
      simp only [hrow]
      cases EndpointTable.ofRow (EndpointTable.shown r) <;> rfl

theorem Store.found_of_resolve {s : Store} {db : Database} {t : Table} (hm : s.medium = .database db)
    (ht : db.find? EndpointTable.name = some t) (hl : EndpointTable.Laid t) {key : EndpointKey}
    {credential : String} {found : Option Definition} (h : s.resolve key credential = .ok found) :
    found = (EndpointTable.held t).find? fun d => d.Answers key credential := by
  have hpq : ∀ (r : TableRow) (d : Definition), (EndpointTable.ofRow (EndpointTable.shown r)).toOption =
      some d → decide (d.Answers key credential) = EndpointTable.meets key credential r := by
    intro r d hd
    rw [Bool.eq_iff_iff, decide_eq_true_iff]
    exact (EndpointTable.meets_iff (toOption_eq_some hd) key credential).symm
  rw [resolve_eq hm ht hl] at h
  split at h
  · cases h
  · rename_i hf
    rw [EndpointTable.held, find?_results hpq (by simp [hf]), hf]
    exact (Except.ok.inj h).symm
  · rename_i r _ hf
    cases ho : EndpointTable.ofRow (EndpointTable.shown r) with
    | error f =>
      rw [ho] at h
      cases h
    | ok d =>
      rw [EndpointTable.held, find?_results hpq (by simp [hf, ho, Except.toOption]), hf]
      rw [ho] at h
      rw [← Except.ok.inj h]
      simp [ho, Except.toOption]

/-- What a registry holds. In memory the ids ascend as definitions are added; in the store the table is
the one made for endpoints. -/
inductive Registry.Holds : Registry → Holdings → List Definition → Prop
  | inMemory {h : Holdings} : h.definitions.Pairwise (fun a b => a.id < b.id) →
      Holds .inMemory h h.definitions
  | inStore {h : Holdings} {db : Database} {t : Table} : h.store.medium = .database db →
      db.find? EndpointTable.name = some t → EndpointTable.Laid t →
      Holds .inStore h (EndpointTable.held t)

theorem Registry.resolve_eq_lowest {registry : Registry} {h : Holdings} {ds : List Definition}
    (hds : registry.Holds h ds) {key : EndpointKey} {credential : String} {found : Option Definition}
    (hr : registry.resolve key credential h = .ok found) : found = lowest? ds key credential := by
  cases hds with
  | inMemory hasc =>
    rw [lowest?_of_ascending hasc, ← Memory.resolve_eq]
    exact (Except.ok.inj hr).symm
  | inStore hm ht hl =>
    rw [lowest?_of_ascending (EndpointTable.held_ascending hl)]
    exact Store.found_of_resolve hm ht hl hr

end EndpointGate
