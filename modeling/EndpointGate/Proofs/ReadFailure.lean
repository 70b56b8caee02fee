import EndpointGate.Proofs.BatchRun
import EndpointGate.Proofs.InvocationPipeline
import EndpointGate.Proofs.StoreInvariant
import Mathlib.Data.List.Basic

/-! A read that fails. Its statement runs outside any transaction, so that what is left is up to the
statement: a statement that stops undoes what it has done, unless it says OR FAIL and a row breaks a
rule. Then the rows before that one stay. -/

namespace EndpointGate.Sql

def Statement.conflict? : Statement → Option Conflict
  | .insert conflict .. | .update conflict .. => some conflict
  | _ => none

def Alteration.targets (a : Alteration) (v : Nat → Value) (db : Database) : List Int :=
  let rows := match db.find? a.table with
    | some t => Retrieval.matching v a.condition (t.along a.path)
    | none => []
  rows.map TableRow.id

/-- The tables as a statement that says OR FAIL has made them with its rows before the first one that
breaks a rule. -/
inductive Action.Partway (v : Nat → Value) (db : Database) (rule : Constraint) :
    Action → Database → Prop
  | insert {i : Insertion} {before after : List RowSource} {x : RowSource} {p : Progress} :
      i.conflict = .fail → i.rows = before ++ x :: after →
      Progress.each (i.step v) { db } before = (p, none) →
      i.step v p x = .error ⟨.violated rule, .fail⟩ → Partway v db rule (.insert i) p.db
  | update {a : Alteration} {before after : List Int} {x : Int} {p : Progress} :
      a.conflict = .fail → a.targets v db = before ++ x :: after →
      Progress.each (a.step v) { db } before = (p, none) →
      a.step v p x = .error ⟨.violated rule, .fail⟩ → Partway v db rule (.update a) p.db

section Stopping

variable {v : Nat → Value} {db kept : Database} {p p' : Progress} {s : Stop}

theorem Progress.each_stopped {α : Type} {step : Progress → α → Except Stop Progress} {xs : List α}
    (h : each step p xs = (p', some s)) : ∃ before x after, xs = before ++ x :: after ∧
      each step p before = (p', none) ∧ step p' x = .error s := by
  induction xs generalizing p with
  | nil => simp [each] at h
  | cons x rest ih =>
    cases hx : step p x with
    | ok q =>
      simp only [each, hx] at h
      obtain ⟨before, y, after, rfl, hbefore, hy⟩ := ih h
      exact ⟨x :: before, y, after, rfl, by simp only [each, hx, hbefore], hy⟩
    | error s' =>
      simp only [each, hx, Prod.mk.injEq, Option.some.injEq] at h
      obtain ⟨rfl, rfl⟩ := h
      exact ⟨[], x, rest, rfl, rfl, hx⟩

theorem Table.receive_refuse {t : Table} {conflict : Conflict} {r : TableRow}
    (h : t.receive conflict r = .refuse s) (hs : s.conflict = .fail) :
    conflict = .fail ∧ ∃ rule, s = ⟨.violated rule, .fail⟩ := by
  have hbroken : ∀ rule, broken conflict rule = .refuse s →
      conflict = .fail ∧ ∃ rule, s = ⟨.violated rule, .fail⟩ := by
    intro rule hb
    cases conflict <;> simp only [broken, reduceCtorEq, Admission.refuse.injEq] at hb <;>
      subst hb <;> simp_all [Stop.undo]
  unfold receive at h
  simp only at h
  split at h
  · exact hbroken _ h
  · split at h
    · exact hbroken _ h
    · split at h
      · cases h
      · split at h
        · cases h
        · exact hbroken _ h

theorem rowNumber_undone {t : Table} {x : Value} (h : rowNumber t x = .error s) :
    s.conflict = .abort := by
  unfold rowNumber at h
  split at h
  · cases h
  · split at h
    · cases h
    · rw [← Except.error.inj h]
      rfl
  · rw [← Except.error.inj h]
    rfl

theorem bind_eq_error {ε α β : Type} {x : Except ε α} {f : α → Except ε β} {e : ε}
    (h : (x >>= f) = .error e) : x = .error e ∨ ∃ a, x = .ok a ∧ f a = .error e := by
  cases x with
  | error e' => exact Or.inl (congrArg Except.error (Except.error.inj h))
  | ok a => exact Or.inr ⟨a, rfl, h⟩

theorem Insertion.step_stopped {i : Insertion} {x : RowSource} (h : i.step v p x = .error s)
    (hs : s.conflict = .fail) : i.conflict = .fail ∧ ∃ rule, s = ⟨.violated rule, .fail⟩ := by
  unfold step at h
  split at h
  · rename_i t _
    rcases bind_eq_error h with hn | ⟨id, -, h⟩
    · simp [rowNumber_undone hn] at hs
    · simp only at h
      split at h
      · cases h
      · cases h
      · rename_i hr
        obtain rfl := Except.error.inj h
        exact Table.receive_refuse hr hs
  · rw [← Except.error.inj h] at hs
    cases hs

theorem Alteration.step_stopped {a : Alteration} {x : Int} (h : a.step v p x = .error s)
    (hs : s.conflict = .fail) : a.conflict = .fail ∧ ∃ rule, s = ⟨.violated rule, .fail⟩ := by
  unfold step at h
  split at h
  · split at h
    · simp only at h
      split at h
      · rcases bind_eq_error h with hn | ⟨id, -, h⟩
        · cases hn
        · split at h
          · cases h
          · cases h
          · rename_i hr
            obtain rfl := Except.error.inj h
            exact Table.receive_refuse hr hs
      · rcases bind_eq_error h with hn | ⟨id, hn, -⟩
        · rw [← Except.error.inj hn] at hs
          cases hs
        · cases hn
    · cases h
  · rw [← Except.error.inj h] at hs
    cases hs

theorem Outcome.ofProgress_kept {stop : Option Stop}
    (h : Outcome.ofProgress db p stop = .stopped s (some kept)) :
    stop = some s ∧ s.conflict = .fail ∧ kept = p.db := by
  cases stop with
  | none =>
    simp only [ofProgress] at h
    split at h <;> cases h
  | some s' =>
    simp only [ofProgress] at h
    split at h
    · cases h
    · rename_i hf
      split at h
      · obtain ⟨rfl, hk⟩ := Outcome.stopped.inj h
        exact ⟨rfl, Classical.not_not.mp hf, (Option.some.inj hk).symm⟩
      · cases h

theorem Outcome.ofExcept_kept {r : Except Stop Effect} :
    Outcome.ofExcept r ≠ .stopped s (some kept) := by
  cases r <;> simp [ofExcept]

theorem Action.partway_of_kept {a : Action} (h : a.perform db v = .stopped s (some kept)) :
    ∃ rule, s.failure = .violated rule ∧ a.Partway v db rule kept := by
  cases a with
  | insert i =>
    obtain ⟨hstop, hs, rfl⟩ := Outcome.ofProgress_kept h
    obtain ⟨before, x, after, hrows, hbefore, hx⟩ :=
      Progress.each_stopped (Prod.ext rfl hstop : i.run v db = ((i.run v db).1, some s))
    obtain ⟨hi, rule, rfl⟩ := Insertion.step_stopped hx hs
    exact ⟨rule, rfl, .insert hi hrows hbefore hx⟩
  | update a =>
    obtain ⟨hstop, hs, rfl⟩ := Outcome.ofProgress_kept h
    obtain ⟨before, x, after, hrows, hbefore, hx⟩ :=
      Progress.each_stopped (Prod.ext rfl hstop : a.run v db = ((a.run v db).1, some s))
    obtain ⟨ha, rule, rfl⟩ := Alteration.step_stopped hx hs
    exact ⟨rule, rfl, .update ha hrows hbefore hx⟩
  | delete d =>
    obtain ⟨hstop, -, -⟩ := Outcome.ofProgress_kept (show Outcome.ofProgress db _ none = _ from h)
    cases hstop
  | createIndex | dropTable | select => exact absurd h Outcome.ofExcept_kept
  | _ => simp [perform] at h

end Stopping

section Resolution

variable {db : Database} {conflict : Conflict} {table : String} {returning : List Selection}

theorem Database.conflict_resolveInsert {columns : Option (List String)}
    {rows : List (List WrittenExpr)} {i : Insertion}
    (h : db.resolveInsert conflict table columns rows returning = .ok i) : i.conflict = conflict := by
  unfold resolveInsert at h
  obtain ⟨t, -, h⟩ := bind_eq_ok h
  obtain ⟨given, -, h⟩ := bind_eq_ok h
  obtain ⟨sources, -, h⟩ := bind_eq_ok h
  obtain ⟨_, -, h⟩ := bind_eq_ok h
  extract_lets replaces at h
  split at h
  · obtain ⟨_, -, h⟩ := bind_eq_ok h
    obtain ⟨output, -, h⟩ := bind_eq_ok h
    obtain rfl := Except.ok.inj h
    rfl
  · obtain ⟨output, -, h⟩ := bind_eq_ok h
    obtain rfl := Except.ok.inj h
    rfl

theorem Database.conflict_resolveUpdate {changes : List (String × WrittenExpr)}
    {condition : Option WrittenExpr} {a : Alteration}
    (h : db.resolveUpdate conflict table changes condition returning = .ok a) :
    a.conflict = conflict := by
  unfold resolveUpdate at h
  obtain ⟨t, -, h⟩ := bind_eq_ok h
  extract_lets names at h
  obtain ⟨given, -, h⟩ := bind_eq_ok h
  extract_lets valueFor changed replaces own others at h
  obtain ⟨_, -, h⟩ := bind_eq_ok h
  split at h
  · obtain ⟨_, -, h⟩ := bind_eq_ok h
    obtain ⟨c, -, h⟩ := bind_eq_ok h
    obtain ⟨output, -, h⟩ := bind_eq_ok h
    obtain rfl := Except.ok.inj h
    rfl
  · obtain ⟨c, -, h⟩ := bind_eq_ok h
    obtain ⟨output, -, h⟩ := bind_eq_ok h
    obtain rfl := Except.ok.inj h
    rfl

theorem Database.conflict_resolve {st : Statement} {a : Action} {v : Nat → Value}
    {tables kept : Database} {rule : Constraint} (h : db.resolve st = .ok a)
    (hp : a.Partway v tables rule kept) : st.conflict? = some .fail := by
  -- only what puts rows into a table stops partway, and names resolved it is what it was
  have hkind : st.kind = .counting := by
    rcases kind_resolve h with hk | ⟨-, rfl⟩
    · rw [← hk]
      cases hp <;> rfl
    · cases hp
  cases st with
  | insert =>
    obtain ⟨i, hr, rfl⟩ := map_eq_ok h
    cases hp with
    | insert hi => rw [Statement.conflict?, ← conflict_resolveInsert hr, hi]
  | update =>
    obtain ⟨u, hr, rfl⟩ := map_eq_ok h
    cases hp with
    | update hu => rw [Statement.conflict?, ← conflict_resolveUpdate hr, hu]
  | delete =>
    obtain ⟨d, -, rfl⟩ := map_eq_ok h
    cases hp
  | _ => cases hkind

end Resolution

namespace Connection

theorem run_of_error {c c' : Connection} {db : Database} {a : Action} {b : Bindings} {f : Failure}
    (hc : c.committed = db) (hw : c.working = db) (ht : c.inTransaction = false)
    (h : c.run a b = (.error f, c')) :
    c'.committed = db ∨ ∃ rule, f = .violated rule ∧ a.Partway b.value db rule c'.committed := by
  unfold run at h
  split at h
  · by_cases hk : a.kind = .control
    · -- BEGIN does not fail here, and COMMIT and ROLLBACK that find no transaction do nothing
      left
      cases a with
      | begin lock =>
        simp [perform, begin, ht] at h
      | commit =>
        simp only [perform, commit, ht, Bool.false_eq_true, if_false, Prod.mk.injEq] at h
        rw [← h.2, hc]
      | rollback =>
        simp only [perform, rollback, ht, Bool.false_eq_true, if_false, Prod.mk.injEq] at h
        rw [← h.2, hc]
      | _ => simp [Action.kind] at hk
    · rw [perform_of_ne_control c hk] at h
      cases hd : a.perform c.working b.value with
      | done e => simp [hd] at h
      | stopped s kept =>
        simp only [hd, Prod.mk.injEq, Except.error.injEq] at h
        obtain ⟨rfl, rfl⟩ := h
        rw [hw] at hd
        unfold stopped
        split_ifs
        · exact Or.inl hc
        · cases kept with
          | none => exact Or.inl hc
          | some kept =>
            right
            obtain ⟨rule, hf, hp⟩ := Action.partway_of_kept hd
            refine ⟨rule, hf, ?_⟩
            simpa [settled, ht] using hp
  · obtain ⟨-, rfl⟩ := Prod.mk.inj h
    exact Or.inl hc

end Connection

end EndpointGate.Sql

namespace EndpointGate

open Sql (Connection Database Constraint)

def Template.conflict? (t : Template) : Option Sql.Conflict :=
  match Sql.parse (t.parse []).sql with
  | .ok (st, _) => st.conflict?
  | .error _ => none

namespace Engine

/-- A read that stopped at a row: its template says OR FAIL, the row broke a rule, and the store has what
the rows before it have made of its tables. -/
structure KeptPartway (t : Template) (fields : Row) (s : Store) (e : ExecutionError) (s' : Store) :
    Prop where
  orFail : t.conflict? = some .fail
  kept : ∃ c p b rule db, s.connect = .ok c ∧ prepare c (Plan.bind t.plan fields) = .ok (p, b) ∧
    e = .store (.sql (.violated rule)) ∧ p.action.Partway b.value s.tables rule db ∧
    s' = s.keeping db

theorem statement_of_prepare {c : Connection} {st : BoundStatement} {p : Sql.Prepared}
    {b : Sql.Bindings} (h : prepare c st = .ok (p, b)) :
    ∃ w ps, Sql.parse st.sql = .ok (w, ps) ∧ c.working.resolve w = .ok p.action := by
  rw [prepare_eq] at h
  split at h
  · cases h
  · rename_i w ps hparse
    split at h
    · cases h
    · rename_i a hr
      obtain ⟨b', -, he⟩ := Sql.map_eq_ok h
      obtain ⟨rfl, -⟩ := Prod.mk.inj he
      exact ⟨w, ps, hparse, Sql.Connection.working_resolve hr⟩

theorem query_of_error {t : Template} {fields : Row} {s s' : Store} {e : ExecutionError}
    (h : query t fields s = (.error e, s')) : s' = s ∨ KeptPartway t fields s e s' := by
  unfold query at h
  cases hc : s.connect with
  | error x =>
    simp only [hc, Prod.mk.injEq] at h
    exact Or.inl h.2.symm
  | ok c =>
    obtain ⟨hcomm, hw, -, ht⟩ := Store.connect_atRest hc
    simp only [hc] at h
    cases hp : prepare c (Plan.bind t.plan fields) with
    | error x =>
      simp only [hp, Prod.mk.injEq, Store.closing_eq, hcomm, Store.keeping_tables] at h
      exact Or.inl h.2.symm
    | ok q =>
      obtain ⟨p, b⟩ := q
      simp only [hp] at h
      rcases hr : c.run p.action b with ⟨f | rows, c'⟩
      · simp only [hr, Prod.mk.injEq, Except.error.injEq, Store.closing_eq] at h
        obtain ⟨rfl, rfl⟩ := h
        rcases Sql.Connection.run_of_error hcomm hw ht hr with hk | ⟨rule, rfl, hk⟩
        · rw [hk, Store.keeping_tables]
          exact Or.inl rfl
        · right
          obtain ⟨w, ps, hparse, hres⟩ := statement_of_prepare hp
          refine ⟨?_, c, p, b, rule, c'.committed, hc, hp, rfl, hk, rfl⟩
          have hsql : (t.parse []).sql = (Plan.bind t.plan fields).sql := rfl
          rw [Template.conflict?, hsql, hparse]
          exact Sql.Database.conflict_resolve hres hk
      · simp [hr] at h

end Engine

namespace Gateway

variable {g : Gateway} {r : ReadRequest} {c : Call}

theorem run_query (t : Template) (fields : Row) (c : Call) :
    ∃ c' : Call, (query t fields).run c =
      ((Engine.query t fields c.holdings.store).1.mapError .executionFailed, c') ∧
      c'.lifecycle = c.lifecycle ∧
      c'.holdings = { c.holdings with store := (Engine.query t fields c.holdings.store).2 } :=
  ⟨((query t fields).run c).2, rfl, rfl, rfl⟩

theorem runRead_of_refused {e : GatewayError}
    (he : g.resolve r.endpoint "GET" r.credential c.holdings = .error e) :
    (g.runRead r).run c = (.error e, c) := by
  have hget : (get : Handling Call).run c = (.ok c, c) := rfl
  rw [runRead, run_bind_ok hget, he]
  exact run_bind_error (run_ofExcept _ c) _

theorem runRead_of_resolved {d : Definition} (hs : c.lifecycle.state = .received)
    (hd : g.resolve r.endpoint "GET" r.credential c.holdings = .ok d) :
    ∃ c', (g.runRead r).run c = ((Engine.query ⟨d.sqlTemplate⟩ r.fields c.holdings.store).1.mapError
        .executionFailed, c') ∧ c'.holdings =
        { c.holdings with store := (Engine.query ⟨d.sqlTemplate⟩ r.fields c.holdings.store).2 } := by
  have hget : (get : Handling Call).run c = (.ok c, c) := rfl
  obtain ⟨c₁, h₁, hs₁, hh₁⟩ := run_advance c .resolved (by rw [hs]; rfl)
  obtain ⟨c₂, h₂, hs₂, hh₂⟩ := run_advance c₁ .validated (by rw [hs₁]; rfl)
  obtain ⟨c₃, h₃, hs₃, hh₃⟩ := run_advance c₂ .executing (by rw [hs₂]; rfl)
  have hh : c₃.holdings = c.holdings := hh₃.trans (hh₂.trans hh₁)
  obtain ⟨c₄, h₄, hl₄, hh₄⟩ := run_query ⟨d.sqlTemplate⟩ r.fields c₃
  rw [hh] at h₄ hh₄
  rw [runRead, run_bind_ok hget, hd, run_bind_ok (run_ofExcept _ c), run_bind_ok h₁,
    run_bind_ok h₂, run_bind_ok h₃]
  cases hx : (Engine.query ⟨d.sqlTemplate⟩ r.fields c.holdings.store).1 with
  | error e =>
    rw [hx] at h₄
    exact ⟨c₄, run_bind_error h₄ _, hh₄⟩
  | ok rows =>
    rw [hx] at h₄
    obtain ⟨c₅, h₅, -, hh₅⟩ := run_advance c₄ .committed (by rw [hl₄, hs₃]; rfl)
    refine ⟨c₅, ?_, hh₅.trans hh₄⟩
    rw [run_bind_ok h₄, run_bind_ok h₅]
    rfl

theorem read_of_run (g : Gateway) (r : ReadRequest) (s : Running) :
    ∃ c : Call, c.lifecycle.state = .received ∧ c.holdings = s.holdings ∧
      ∀ x c', (g.runRead r).run c = (x, c') →
        (g.read r s).1 = x ∧ (g.read r s).2.holdings = c'.holdings := by
  let start := Lifecycle.start r.endpoint "GET" s.journal
  refine ⟨⟨start.1, s.holdings, start.2⟩, rfl, rfl, fun x c' hrun => ?_⟩
  have hhandle : handle r.endpoint "GET" (g.runRead r) s = (x, c') := hrun
  unfold read
  rw [hhandle]
  cases x <;> exact ⟨rfl, rfl⟩

/-- A read that fails, by itself or at the gateway, leaves all as it was, unless its template says OR
FAIL: then the rows before the one that broke a rule stay. -/
theorem failed_read_keeps (g : Gateway) (r : ReadRequest) (s : Running) (t : Template) (fields : Row)
    (store : Store) :
    (∀ e, (Engine.query t fields store).1 = .error e → (Engine.query t fields store).2 = store ∨
      Engine.KeptPartway t fields store e (Engine.query t fields store).2) ∧
    ∀ e, (g.read r s).1 = .error e → (g.read r s).2.holdings = s.holdings ∨
      ∃ d x s', g.resolve r.endpoint "GET" r.credential s.holdings = .ok d ∧
        e = .executionFailed x ∧
        Engine.KeptPartway ⟨d.sqlTemplate⟩ r.fields s.holdings.store x s' ∧
        (g.read r s).2.holdings = { s.holdings with store := s' } := by
  refine ⟨fun e he => Engine.query_of_error (Prod.ext he rfl), fun e he => ?_⟩
  obtain ⟨c, hstate, hheld, hread⟩ := read_of_run g r s
  cases hd : g.resolve r.endpoint "GET" r.credential s.holdings with
  | error e' =>
    rw [← hheld] at hd
    obtain ⟨-, h₂⟩ := hread _ _ (runRead_of_refused hd)
    exact Or.inl (h₂.trans hheld)
  | ok d =>
    obtain ⟨c', hrun, hh⟩ := runRead_of_resolved hstate (hheld ▸ hd)
    obtain ⟨h₁, h₂⟩ := hread _ _ hrun
    rw [hheld] at h₁ hh
    rw [h₂, hh]
    rcases hq : Engine.query ⟨d.sqlTemplate⟩ r.fields s.holdings.store with ⟨x | rows, s'⟩
    · rw [hq, he] at h₁
      obtain rfl := Except.error.inj h₁
      rcases Engine.query_of_error hq with rfl | hk
      · exact Or.inl rfl
      · exact Or.inr ⟨d, x, s', rfl, rfl, hk, rfl⟩
    · rw [hq, he] at h₁
      cases h₁

/-- A read inserts the value 1 twice into a column of values that differ: it fails, and the first row
stays in a table that had none. -/
theorem failed_read_leaves_row :
    let t : Sql.Table := {
      name := "t"
      columns := [{ name := "v", typed := false, affinity := .blob, notNull := false, default := .null }]
      indexes := [⟨none, [0], true⟩] }
    let d : Definition := ⟨1, "items", "GET", "k1", "INSERT OR FAIL INTO t VALUES (1), (1)",
      "2024-01-01 00:00:00"⟩
    let g : Gateway := ⟨.inMemory, .ofConfig []⟩
    let s : Running := {
      holdings := { store := { path := "gate.db", medium := .database [t] }, definitions := [d] }
      journal := { threshold := .fatal } }
    let r : ReadRequest := ⟨"items", some "k1", []⟩
    (g.read r s).1 = .error (.executionFailed (.store (.sql (.violated (.unique "t.v"))))) ∧
    s.holdings.store.tables.map Sql.Table.rows = [[]] ∧
    (g.read r s).2.holdings.store.tables.map Sql.Table.rows = [[⟨1, [.integer 1]⟩]] := by
  decide +kernel

end Gateway

end EndpointGate
