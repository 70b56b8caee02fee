import EndpointGate.Engine.Execution
import EndpointGate.Proofs.Transaction
import Mathlib.Algebra.Ring.Nat

/-! The rows of a batch, one after another in one transaction. A row does to the transaction's tables what
its statement does to them by itself, and nothing is kept while the transaction lasts; the count that it
shows is its own unless a statement before it has left another. -/

namespace EndpointGate

open Sql (Connection Prepared Bindings Database Kind)

def BoundStatement.kind? (s : BoundStatement) : Option Kind :=
  match Sql.parse s.sql with
  | .ok (st, _) => some st.kind
  | .error _ => none

def Template.kind? (t : Template) : Option Kind := (t.parse []).kind?

theorem Template.kind?_bind (t : Template) (row : Row) : (Plan.bind t.plan row).kind? = t.kind? := by
  simp only [Template.kind?, BoundStatement.kind?, Template.parse, Plan.bind]

namespace Store

def begun (s : Store) : Except StoreError Connection :=
  match s.connect with
  | .error e => .error e
  | .ok c => match c.run (.begin true) [] with
    | (.ok _, c) => .ok c
    | (.error f, _) => .error (.sql f)

def keeping (s : Store) (db : Database) : Store :=
  match s.medium with
  | .database _ => { s with medium := .database db }
  | _ => s

theorem keeping_tables (s : Store) : s.keeping s.tables = s := by
  obtain ⟨path, medium, lock⟩ := s
  cases medium <;> rfl

theorem closing_eq (s : Store) (c : Connection) : s.closing c = s.keeping c.committed := rfl

theorem connect_atRest {s : Store} {c : Connection} (h : s.connect = .ok c) :
    c.committed = s.tables ∧ c.working = s.tables ∧ c.changes = 0 ∧ c.inTransaction = false := by
  unfold connect at h
  split at h <;> cases h <;> simp_all [tables]

theorem begun_transacting {s : Store} {c : Connection} (h : s.begun = .ok c) :
    c.Transacting s.tables ∧ c.working = s.tables ∧ c.changes = 0 := by
  unfold begun at h
  split at h
  · cases h
  · rename_i c₀ hc₀
    obtain ⟨hc, hw, hn, ht⟩ := connect_atRest hc₀
    cases ha : c₀.access <;>
      simp [Connection.run, Sql.Action.writes, ha, Sql.Access.write, Connection.perform,
        Connection.begin, ht] at h
    subst h
    exact ⟨⟨rfl, hc, rfl⟩, hw, hn⟩

end Store

namespace Engine

def effect (db : Database) (s : BoundStatement) : Except StoreError Sql.Effect :=
  match prepare (.ofDatabase db) s with
  | .error e => .error e
  | .ok (p, b) => match p.action.perform db b.value with
    | .done e => .ok e
    | .stopped stop _ => .error (.sql stop.failure)

def applied (plan : Plan) (db : Database) : List Row → Except StoreError (Database × List Nat)
  | [] => .ok (db, [])
  | row :: rest =>
    match effect db (plan.bind row) with
    | .error e => .error e
    | .ok e => (applied plan e.db rest).map fun (db, counts) => (db, e.changes.getD 0 :: counts)

inductive Succeeds (plan : Plan) : Connection → List Row → List Nat → Connection → Prop
  | nil (c : Connection) : Succeeds plan c [] [] c
  | cons {c c₁ c₂ : Connection} {row : Row} {rest : List Row} {n : Nat} {counts : List Nat} :
      apply c (plan.bind row) = (.ok n, c₁) → Succeeds plan c₁ rest counts c₂ →
      Succeeds plan c (row :: rest) (n :: counts) c₂

section Step

variable {c : Connection} {db : Database} {s : BoundStatement}

theorem prepare_eq (c : Connection) (s : BoundStatement) :
    prepare c s = match Sql.parse s.sql with
      | .error f => .error (.sql f)
      | .ok (st, ps) => match c.resolve st with
        | .error f => .error (.sql f)
        | .ok a => (bindMarkers ps s.parameters).map fun b => (⟨a, ps⟩, b) := by
  unfold prepare Connection.prepare
  cases hp : Sql.parse s.sql with
  | error f => simp [bind, Except.bind, Except.mapError]
  | ok q =>
    obtain ⟨st, ps⟩ := q
    cases hr : c.resolve st with
    | error f => simp [bind, Except.bind, Except.mapError, hr]
    | ok a =>
      cases hb : bindMarkers ps s.parameters <;>
        simp [bind, Except.bind, Except.mapError, pure, Except.pure, hr, hb, Except.map]

theorem resolve_of_full (h : c.access = .full) (st : Sql.Statement) :
    c.resolve st = c.working.resolve st := by
  unfold Connection.resolve
  cases hn : st.namesTables <;>
    simp [h, Sql.Access.read, bind, Except.bind]

theorem prepare_of_full (h : c.access = .full) (s : BoundStatement) :
    prepare c s = prepare (.ofDatabase c.working) s := by
  rw [prepare_eq, prepare_eq]
  simp only [resolve_of_full h, resolve_of_full (c := .ofDatabase c.working) rfl]
  rfl

theorem resolved_of_prepare (h : c.access = .full) {p : Prepared} {b : Bindings}
    (hp : prepare c s = .ok (p, b)) :
    ∃ st ps, Sql.parse s.sql = .ok (st, ps) ∧ c.working.resolve st = .ok p.action := by
  rw [prepare_eq] at hp
  split at hp
  · cases hp
  · rename_i st ps hparse
    rw [resolve_of_full h] at hp
    split at hp
    · cases hp
    · rename_i a hr
      obtain ⟨b', -, he⟩ := Sql.map_eq_ok hp
      obtain ⟨rfl, rfl⟩ := Prod.mk.inj he
      exact ⟨st, ps, hparse, hr⟩

theorem kind_of_prepare (h : c.access = .full) {p : Prepared} {b : Bindings}
    (hp : prepare c s = .ok (p, b)) :
    s.kind? = some p.action.kind ∨ s.kind? = some .dropping ∧ p.action = .nothing := by
  obtain ⟨st, ps, hparse, hr⟩ := resolved_of_prepare h hp
  have hs : s.kind? = some st.kind := by simp [BoundStatement.kind?, hparse]
  rcases Sql.Database.kind_resolve hr with hk | ⟨hk, ha⟩
  · exact Or.inl (hk ▸ hs)
  · exact Or.inr ⟨hk ▸ hs, ha⟩

theorem apply_cases (h : c.Transacting db) (hk : s.kind? ≠ some .control) :
    (∃ p b e c', prepare c s = .ok (p, b) ∧ p.action.perform c.working b.value = .done e ∧
      effect c.working s = .ok e ∧ apply c s = (.ok (changeCount p c'), c') ∧ c'.Transacting db ∧
      c'.working = e.db ∧ c'.changes = e.changes.getD c.changes) ∨
    ∃ x c', effect c.working s = .error x ∧ apply c s = (.error x, c') ∧ c'.committed = db := by
  unfold apply effect
  rw [← prepare_of_full h.access]
  cases hp : prepare c s with
  | error x => exact Or.inr ⟨x, c, rfl, rfl, h.committed⟩
  | ok q =>
    obtain ⟨p, b⟩ := q
    have ha : p.action.kind ≠ .control := by
      rcases kind_of_prepare h.access hp with hs | ⟨-, hs⟩
      · exact fun he => hk (he ▸ hs)
      · simp [hs, Sql.Action.kind]
    simp only [Connection.run_of_full h.access, Connection.perform_of_ne_control c ha]
    cases hd : p.action.perform c.working b.value with
    | done e =>
      refine Or.inl ⟨p, b, e, c.accept e, rfl, hd, rfl, rfl, ?_⟩
      rw [Connection.accept_of_transacting h]
      exact ⟨⟨h.inTransaction, h.committed, h.access⟩, rfl, rfl⟩
    | stopped stop kept =>
      exact Or.inr ⟨_, _, rfl, rfl, Connection.committed_stopped h stop kept⟩

end Step

section Rows

variable {c c' : Connection} {db : Database} {t : Template} {rows : List Row} {counts : List Nat}

theorem applyRows_ok_iff (plan : Plan) (n : Nat) (c : Connection) (rows : List Row) (k : Nat)
    (c' : Connection) :
    applyRows plan n c rows = (.ok k, c') ↔
      ∃ counts, Succeeds plan c rows counts c' ∧ counts.sum = k := by
  induction rows generalizing n c k with
  | nil =>
    constructor
    · intro h
      obtain ⟨hk, rfl⟩ := Prod.mk.inj h
      exact ⟨[], .nil c, Except.ok.inj hk⟩
    · rintro ⟨counts, hs, rfl⟩
      cases hs
      rfl
  | cons row rest ih =>
    rcases ha : apply c (plan.bind row) with ⟨r | m, c₁⟩
    · constructor
      · intro h
        simp [applyRows, ha] at h
      · rintro ⟨counts, hs, -⟩
        cases hs with
        | cons hrow _ => simp [ha] at hrow
    · rcases hr : applyRows plan (n + 1) c₁ rest with ⟨r | more, c₂⟩
      · constructor
        · intro h
          simp [applyRows, ha, hr] at h
        · rintro ⟨counts, hs, -⟩
          cases hs with
          | cons hrow hrest =>
            obtain ⟨-, rfl⟩ := Prod.mk.inj (ha.symm.trans hrow)
            have hok := (ih (n + 1) c₁ _).mpr ⟨_, hrest, rfl⟩
            simp [hr] at hok
      · constructor
        · intro h
          simp only [applyRows, ha, hr, Prod.mk.injEq, Except.ok.injEq] at h
          obtain ⟨rfl, rfl⟩ := h
          obtain ⟨counts, hs, rfl⟩ := (ih (n + 1) c₁ more).mp hr
          exact ⟨m :: counts, .cons ha hs, List.sum_cons⟩
        · rintro ⟨counts, hs, rfl⟩
          cases hs with
          | cons hrow hrest =>
            obtain ⟨hm, rfl⟩ := Prod.mk.inj (ha.symm.trans hrow)
            have hok := (ih (n + 1) c₁ _).mpr ⟨_, hrest, rfl⟩
            simp [applyRows, ha, hok, Except.ok.inj hm]

theorem applyRows_error_iff (plan : Plan) (n : Nat) (c : Connection) (rows : List Row) (m : Nat)
    (x : StoreError) (c' : Connection) :
    applyRows plan n c rows = (.error (m, x), c') ↔
      ∃ pre r rest counts c₁, rows = pre ++ r :: rest ∧ m = n + pre.length + 1 ∧
        Succeeds plan c pre counts c₁ ∧ apply c₁ (plan.bind r) = (.error x, c') := by
  induction rows generalizing n c with
  | nil => simp [applyRows]
  | cons row rest ih =>
    rcases ha : apply c (plan.bind row) with ⟨y | k, c₁⟩
    · constructor
      · intro h
        simp only [applyRows, ha, Prod.mk.injEq, Except.error.injEq] at h
        obtain ⟨⟨rfl, rfl⟩, rfl⟩ := h
        exact ⟨[], row, rest, [], c, rfl, rfl, .nil c, ha⟩
      · rintro ⟨pre, r, rest', counts, c₁', he, rfl, hs, hf⟩
        cases hs with
        | nil =>
          obtain ⟨rfl, rfl⟩ := List.cons.inj he
          obtain ⟨hx, rfl⟩ := Prod.mk.inj (ha.symm.trans hf)
          simp [applyRows, ha, Except.error.inj hx]
        | cons hrow _ =>
          obtain ⟨rfl, -⟩ := List.cons.inj he
          simp [ha] at hrow
    · have hrest : applyRows plan n c (row :: rest) = (.error (m, x), c') ↔
          applyRows plan (n + 1) c₁ rest = (.error (m, x), c') := by
        rcases hr : applyRows plan (n + 1) c₁ rest with ⟨y | more, c₂⟩ <;> simp [applyRows, ha, hr]
      rw [hrest, ih]
      constructor
      · rintro ⟨pre, r, rest', counts, c₂, rfl, rfl, hs, hf⟩
        exact ⟨row :: pre, r, rest', k :: counts, c₂, rfl,
          by simp only [List.length_cons]; omega, .cons ha hs, hf⟩
      · rintro ⟨pre, r, rest', counts, c₂, he, rfl, hs, hf⟩
        cases hs with
        | nil =>
          obtain ⟨rfl, -⟩ := List.cons.inj he
          simp [ha] at hf
        | cons hrow hs =>
          obtain ⟨rfl, rfl⟩ := List.cons.inj he
          obtain ⟨-, rfl⟩ := Prod.mk.inj (ha.symm.trans hrow)
          exact ⟨_, r, rest', _, c₂, rfl, by simp only [List.length_cons]; omega, hs, hf⟩

theorem effect_of_apply {row : Row} {n : Nat} (ha : apply c (Plan.bind t.plan row) = (.ok n, c'))
    (h : c.Transacting db) (hk : t.kind? ≠ some .control) :
    ∃ p b e, prepare c (Plan.bind t.plan row) = .ok (p, b) ∧
      p.action.perform c.working b.value = .done e ∧
      effect c.working (Plan.bind t.plan row) = .ok e ∧ n = changeCount p c' ∧
      c'.Transacting db ∧ c'.working = e.db ∧ c'.changes = e.changes.getD c.changes := by
  rw [← Template.kind?_bind t row] at hk
  rcases apply_cases h hk with ⟨p, b, e, c₁, hp, hd, he, ha', ht, hw, hn⟩ | ⟨x, c₁, -, ha', -⟩
  · obtain ⟨hn', rfl⟩ := Prod.mk.inj (ha.symm.trans ha')
    exact ⟨p, b, e, hp, hd, he, Except.ok.inj hn', ht, hw, hn⟩
  · simp [ha] at ha'

theorem Succeeds.transacting (hs : Succeeds t.plan c rows counts c') (h : c.Transacting db)
    (hk : t.kind? ≠ some .control) : c'.Transacting db := by
  induction hs with
  | nil c => exact h
  | cons ha _ ih =>
    obtain ⟨-, -, -, -, -, -, -, ht, -, -⟩ := effect_of_apply ha h hk
    exact ih ht

theorem Succeeds.take (hs : Succeeds t.plan c rows counts c') (k : Nat) :
    ∃ counts c', Succeeds t.plan c (rows.take k) counts c' := by
  induction hs generalizing k with
  | nil c => exact ⟨[], c, by simpa using .nil c⟩
  | cons ha _ ih =>
    cases k with
    | zero => exact ⟨[], _, .nil _⟩
    | succ k =>
      obtain ⟨counts, c', hs⟩ := ih k
      exact ⟨_, c', .cons ha hs⟩

theorem changeCount_eq_own {p : Prepared} {v : Nat → Sql.Value} {d : Database} {e : Sql.Effect}
    {old : Nat} (hd : p.action.perform d v = .done e) (hn : c'.changes = e.changes.getD old)
    (ho : e.changes.isSome ∨ old = 0) : changeCount p c' = e.changes.getD 0 := by
  have hown : c'.changes = e.changes.getD 0 := by
    rw [hn]
    rcases ho with ho | rfl
    · obtain ⟨k, hk⟩ := Option.isSome_iff_exists.mp ho
      simp [hk]
    · rfl
  unfold changeCount
  split
  · rename_i hr
    simp only [Bool.and_eq_true, Prepared.isReadOnly] at hr
    simp [Sql.Action.changes_of_isReadOnly hr.2 hd]
  · exact hown

/-- Unless a table is dropped, the counts shown are the rows' own: a statement counts always, or never
and then the connection's count stays zero. -/
theorem Succeeds.applied_eq (hs : Succeeds t.plan c rows counts c') (h : c.Transacting db)
    (hk : t.kind? ≠ some .control) (hd : t.kind? ≠ some .dropping)
    (h0 : t.kind? = some .counting ∨ c.changes = 0) :
    applied t.plan c.working rows = .ok (c'.working, counts) := by
  induction hs with
  | nil c => rfl
  | @cons c c₁ c₂ row rest n counts ha _ ih =>
    obtain ⟨p, b, e, hp, hperf, he, rfl, ht, hw, hn⟩ := effect_of_apply ha h hk
    have hkind : t.kind? = some p.action.kind := by
      rcases kind_of_prepare h.access hp with hk' | ⟨hk', -⟩
      · rwa [Template.kind?_bind] at hk'
      · rw [Template.kind?_bind] at hk'
        exact absurd hk' hd
    -- a counting template sets the count with every row; a silent one never does, so it stays at zero
    have hcount : (t.kind? = some .counting ∧ e.changes.isSome) ∨
        (c.changes = 0 ∧ c₁.changes = 0) := by
      rw [hkind] at h0 hk hd ⊢
      cases ha : p.action.kind with
      | control => simp [ha] at hk
      | counting => exact Or.inl ⟨rfl, Sql.Action.changes_of_counting ha hperf⟩
      | dropping => simp [ha] at hd
      | silent =>
        have hz : c.changes = 0 := by simpa [ha] using h0
        exact Or.inr ⟨hz, by simp [hn, Sql.Action.changes_of_silent ha hperf, hz]⟩
    have hown := changeCount_eq_own hperf hn (hcount.imp And.right And.left)
    have hrest := ih ht (hcount.imp And.left And.right)
    rw [hw] at hrest
    simp [applied, he, hrest, hown, Except.map]

section Dropping

variable {p : Prepared} {e : Sql.Effect} {name : String} {ifThere : Bool} {v : Nat → Sql.Value}

theorem statement_of_dropping {st : Sql.Statement} (h : st.kind = .dropping) :
    ∃ name ifThere, st = .dropTable name ifThere := by
  cases st with
  | dropTable name ifThere => exact ⟨name, ifThere, rfl⟩
  | _ => simp [Sql.Statement.kind] at h

theorem nothing_of_missing (hr : c.working.resolve (.dropTable name ifThere) = .ok p.action)
    (hnone : c.working.find? name = none) : p.action = .nothing := by
  simp only [Sql.Database.resolve, hnone] at hr
  split_ifs at hr
  exact (Except.ok.inj hr).symm

theorem missing_of_drop (hr : c.working.resolve (.dropTable name ifThere) = .ok p.action)
    (hd : p.action.perform c.working v = .done e) :
    p.columnNames = [] ∧ e.db.find? name = none := by
  cases hf : c.working.find? name with
  | some d =>
    simp only [Sql.Database.resolve, hf] at hr
    have hact := (Except.ok.inj hr).symm
    rw [hact] at hd
    have hdb := Sql.Database.db_dropTable (Sql.Outcome.ofExcept_eq_done hd)
    exact ⟨by simp [Prepared.columnNames, hact, Sql.Action.output],
      hdb ▸ Sql.Database.find?_drop hf⟩
  | none =>
    have hact := nothing_of_missing hr hf
    rw [hact] at hd
    obtain rfl := Sql.Outcome.done.inj hd
    exact ⟨by simp [Prepared.columnNames, hact, Sql.Action.output], hf⟩

theorem Succeeds.nothing_dropped (hs : Succeeds t.plan c rows counts c') (h : c.Transacting db)
    {ps : Sql.Parameters} (hparse : Sql.parse (t.parse []).sql = .ok (.dropTable name ifThere, ps))
    (hnone : c.working.find? name = none) :
    applied t.plan c.working rows = .ok (c'.working, List.replicate rows.length 0) ∧
      counts = List.replicate rows.length c.changes := by
  have hk : t.kind? = some .dropping := by
    simp [Template.kind?, BoundStatement.kind?, hparse, Sql.Statement.kind]
  induction hs with
  | nil c => exact ⟨rfl, rfl⟩
  | @cons c c₁ c₂ row rest n counts ha _ ih =>
    obtain ⟨p, b, e, hp, hperf, he, rfl, ht, hw, hn⟩ := effect_of_apply ha h (by simp [hk])
    obtain ⟨st, ps', hparse', hr⟩ := resolved_of_prepare h.access hp
    obtain ⟨rfl, rfl⟩ := Prod.mk.inj (Except.ok.inj (hparse'.symm.trans hparse))
    have hact := nothing_of_missing hr hnone
    rw [hact] at hperf
    obtain rfl := Sql.Outcome.done.inj hperf
    have hshown : changeCount p c₁ = c.changes := by
      simp [changeCount, Prepared.columnNames, hact, Sql.Action.output, hn]
    obtain ⟨happ, hcounts⟩ := ih ht (by rw [hw]; exact hnone)
    rw [hw] at happ
    simp only [applied, he, happ, hshown, hcounts, hn, Except.map, List.length_cons,
      List.replicate_succ]
    exact ⟨rfl, rfl⟩

theorem Succeeds.dropped (hs : Succeeds t.plan c rows counts c') (h : c.Transacting db)
    (hk : t.kind? = some .dropping) (h0 : c.changes = 0) :
    ∃ own, applied t.plan c.working rows = .ok (c'.working, own) ∧
      counts.sum = rows.length * own.sum := by
  cases hs with
  | nil c => exact ⟨[], rfl, rfl⟩
  | @cons _ c₁ _ row rest n counts ha hrest =>
    obtain ⟨p, b, e, hp, hperf, he, rfl, ht, hw, hn⟩ := effect_of_apply ha h (by simp [hk])
    obtain ⟨st, ps, hparse, hr⟩ := resolved_of_prepare h.access hp
    have hst : st.kind = .dropping := by
      rw [← Template.kind?_bind t row] at hk
      simpa [BoundStatement.kind?, hparse] using hk
    obtain ⟨name, ifThere, rfl⟩ := statement_of_dropping hst
    obtain ⟨hcols, hnone⟩ := missing_of_drop hr hperf
    have hshown : changeCount p c₁ = e.changes.getD 0 := by
      simp [changeCount, hcols, hn, h0]
    -- the later rows find nothing to drop and go on showing the first row's count
    obtain ⟨happ, rfl⟩ := hrest.nothing_dropped ht hparse (by rw [hw]; exact hnone)
    rw [hw] at happ
    refine ⟨e.changes.getD 0 :: List.replicate rest.length 0, ?_, ?_⟩
    · simp [applied, he, happ, Except.map]
    · rw [hshown, hn, h0]
      simp only [List.sum_cons, List.sum_replicate_nat, List.length_cons, Nat.mul_zero, Nat.add_zero,
        Nat.add_mul, Nat.one_mul]
      omega

end Dropping

section Control

theorem apply_of_control {s : BoundStatement} (h : c.AtRest db) (hk : s.kind? = some .control) :
    (apply c s).2.AtRest db ∧ ∀ n, (apply c s).1 = .ok n →
      (apply c s).2.inTransaction = !c.inTransaction ∧
      ((∃ lock ps, Sql.parse s.sql = .ok (.begin lock, ps)) ↔ c.inTransaction = false) := by
  unfold apply
  cases hp : prepare c s with
  | error x => exact ⟨h, fun n hn => by simp at hn⟩
  | ok q =>
    obtain ⟨p, b⟩ := q
    obtain ⟨st, ps, hparse, hr⟩ := resolved_of_prepare h.access hp
    have hst : st.kind = .control := by simpa [BoundStatement.kind?, hparse] using hk
    have hkind : p.action.kind = .control := by
      rcases Sql.Database.kind_resolve hr with hk | ⟨hk, -⟩
      · exact hk.trans hst
      · simp [hst] at hk
    have hbegin : (∃ lock ps, Sql.parse s.sql = .ok (.begin lock, ps)) ↔
        ∃ lock, p.action = .begin lock := by
      simp only [hparse, Except.ok.injEq, Prod.mk.injEq, exists_eq_right']
      cases st with
      | begin | commit | rollback =>
        have ha := (Except.ok.inj hr).symm
        simp [ha]
      | _ => simp [Sql.Statement.kind] at hst
    obtain ⟨hrest, hok⟩ := Connection.run_of_control h hkind b
    rcases hrun : c.run p.action b with ⟨f | out, c₁⟩ <;> simp only [hrun] at hrest hok ⊢
    · exact ⟨hrest, fun n hn => by simp at hn⟩
    · exact ⟨hrest, fun n _ => ⟨(hok out rfl).1, hbegin.trans (hok out rfl).2⟩⟩

/-- A transaction statement leaves the transaction with the first row, and there is no second: what has
ended does not end again, and what has begun does not begin again. -/
theorem Succeeds.control (hs : Succeeds t.plan c rows counts c') (h : c.AtRest db)
    (hin : c.inTransaction = true) (hk : t.kind? = some .control) :
    c'.AtRest db ∧ (rows ≠ [] → c'.inTransaction = false) := by
  cases hs with
  | nil => exact ⟨h, fun hne => absurd rfl hne⟩
  | @cons _ c₁ _ row rest n counts ha hrest =>
    obtain ⟨h₁, hok⟩ := apply_of_control h ((Template.kind?_bind t row).trans hk)
    rw [ha] at h₁ hok
    obtain ⟨hout, hbegin⟩ := hok n rfl
    simp only [hin, Bool.not_true] at hout
    cases hrest with
    | nil => exact ⟨h₁, fun _ => hout⟩
    | @cons _ c₂ _ row' _ m _ ha' _ =>
      -- the second row has the same text: it could only succeed in the opposite state
      have hok' := (apply_of_control h₁ ((Template.kind?_bind t row').trans hk)).2 m (by rw [ha'])
      have hsql : (Plan.bind t.plan row').sql = (Plan.bind t.plan row).sql := by simp only [Plan.bind]
      rw [hsql] at hok'
      have hin' := hbegin.mp (hok'.2.mpr hout)
      simp [hin] at hin'

end Control

theorem committed_of_failure {s : BoundStatement} (hs : Succeeds t.plan c rows counts c')
    (h : c.Transacting db) (hw : c.working = db) (hk : s.kind? = t.kind?) {x : StoreError}
    {c₂ : Connection} (hf : apply c' s = (.error x, c₂)) : c₂.committed = db := by
  by_cases hc : t.kind? = some .control
  · have hrest := (hs.control ⟨h.committed, hw, h.access⟩ h.inTransaction hc).1
    have hafter := (apply_of_control hrest (hk.trans hc)).1
    rw [hf] at hafter
    exact hafter.committed
  · rcases apply_cases (hs.transacting h hc) (hk ▸ hc) with ⟨_, _, _, _, -, -, -, ha, -⟩ |
      ⟨y, c₃, -, ha, hcomm⟩
    · simp [hf] at ha
    · obtain ⟨-, rfl⟩ := Prod.mk.inj (hf.symm.trans ha)
      exact hcomm

theorem Succeeds.of_applied (h : c.Transacting db) (hk : t.kind? ≠ some .control)
    {d : Database} {own : List Nat} (ha : applied t.plan c.working rows = .ok (d, own)) :
    ∃ counts c', Succeeds t.plan c rows counts c' := by
  induction rows generalizing c d own with
  | nil => exact ⟨[], c, .nil c⟩
  | cons row rest ih =>
    rcases apply_cases h ((Template.kind?_bind t row).symm ▸ hk) with
      ⟨p, b, e, c₁, -, -, he, hrow, ht, hw, -⟩ | ⟨x, c₁, he, -, -⟩
    · simp only [applied, he] at ha
      obtain ⟨⟨d', own'⟩, hrest, -⟩ := Sql.map_eq_ok ha
      obtain ⟨counts, c', hs⟩ := ih ht (hw ▸ hrest)
      exact ⟨_, c', .cons hrow hs⟩
    · simp [applied, he] at ha

end Rows

end Engine

end EndpointGate
