import EndpointGate.Endpoint.Registry
import EndpointGate.Engine.Execution
import EndpointGate.Proofs.StatementEffects
import EndpointGate.Store.Open

/-! Properties of tables that every statement keeps. Whatever is run on a store, its tables keep them:
what holds of one statement is carried over connections, batches, reads and registrations once for all
such properties. -/

namespace EndpointGate

open Sql (Database Connection Statement Action Bindings Prepared)

/-- A property that no tables have, and that tables have after a statement if they had it before. -/
structure Sql.Database.Kept (P : Database → Prop) : Prop where
  nil : P []
  perform : ∀ {db : Database} {st : Statement} {a : Action}, P db → db.resolve st = .ok a →
    ∀ v, (a.perform db v).Leaves P

variable {P : Database → Prop}

namespace Sql.Connection

structure Both (P : Database → Prop) (c : Connection) : Prop where
  committed : P c.committed
  working : P c.working

variable {c : Connection}

theorem settled_both (h : c.Both P) : c.settled.Both P := by
  unfold settled
  split
  · exact h
  · exact ⟨h.working, h.working⟩

theorem stopped_both (h : c.Both P) (s : Stop) {kept : Option Database}
    (hk : ∀ db, kept = some db → P db) : (c.stopped s kept).Both P := by
  unfold stopped
  split
  · exact ⟨h.committed, h.committed⟩
  · cases kept with
    | none => exact h
    | some db => exact settled_both ⟨h.committed, hk db rfl⟩

theorem rollback_both (h : c.Both P) {c' : Connection} (hc : c.rollback = .ok c') : c'.Both P := by
  unfold rollback at hc
  split at hc
  · obtain rfl := Except.ok.inj hc
    exact ⟨h.committed, h.committed⟩
  · cases hc

theorem commit_both (h : c.Both P) {c' : Connection} (hc : c.commit = .ok c') : c'.Both P := by
  unfold commit at hc
  split at hc
  · obtain rfl := Except.ok.inj hc
    exact ⟨h.working, h.working⟩
  · cases hc

theorem perform_both (hP : Database.Kept P) (h : c.Both P) {st : Statement} {a : Action}
    (ha : c.working.resolve st = .ok a) (b : Bindings) : (c.perform a b).2.Both P := by
  by_cases hk : a.kind = .control
  · cases a with
    | begin lock =>
      cases ht : c.inTransaction <;> simp only [perform, begin, ht] <;> exact ⟨h.committed, h.working⟩
    | commit =>
      simp only [perform]
      cases hc : c.commit with
      | error f => exact h
      | ok c' => exact commit_both h hc
    | rollback =>
      simp only [perform]
      cases hc : c.rollback with
      | error f => exact h
      | ok c' => exact rollback_both h hc
    | _ => simp [Action.kind] at hk
  · have hleaves := hP.perform h.working ha b.value
    rw [perform_of_ne_control c hk]
    cases hd : a.perform c.working b.value with
    | done e =>
      rw [hd] at hleaves
      exact settled_both ⟨h.committed, hleaves⟩
    | stopped s kept =>
      rw [hd] at hleaves
      exact stopped_both h s hleaves

theorem run_both (hP : Database.Kept P) (h : c.Both P) {st : Statement} {a : Action}
    (ha : c.working.resolve st = .ok a) (b : Bindings) : (c.run a b).2.Both P := by
  unfold run
  split
  · exact perform_both hP h ha b
  · exact h

theorem working_resolve {s : Statement} {a : Action} (h : c.resolve s = .ok a) :
    c.working.resolve s = .ok a := by
  unfold resolve at h
  split at h
  · obtain ⟨_, -, h⟩ := bind_eq_ok h
    exact h
  · exact h

theorem resolved_of_prepare {text : String} {p : Prepared} (h : c.prepare text = .ok p) :
    ∃ s, c.working.resolve s = .ok p.action := by
  obtain ⟨⟨s, ps⟩, -, h⟩ := bind_eq_ok h
  obtain ⟨a, ha, h⟩ := bind_eq_ok h
  obtain rfl := Except.ok.inj h
  exact ⟨s, working_resolve ha⟩

theorem runStatement_both (hP : Database.Kept P) (h : c.Both P) (s : Statement) (b : Bindings) :
    (c.runStatement s b).2.Both P := by
  unfold runStatement
  cases ha : c.resolve s with
  | error f => exact h
  | ok a => exact run_both hP h (working_resolve ha) b

theorem runStatements_both (hP : Database.Kept P) (h : c.Both P) (ss : List Statement) :
    (c.runStatements ss).2.Both P := by
  induction ss generalizing c with
  | nil => exact h
  | cons s rest ih =>
    have hs := runStatement_both hP h s []
    simp only [runStatements]
    rcases hr : c.runStatement s [] with ⟨f | rows, c'⟩
    · rwa [hr] at hs
    · rw [hr] at hs
      exact ih hs

theorem runAll_both (hP : Database.Kept P) (h : c.Both P) (fuel : Nat) (text : String) :
    (c.runAll fuel text).2.Both P := by
  induction fuel generalizing c text with
  | zero => exact h
  | succ fuel ih =>
    simp only [runAll]
    split
    · exact h
    · cases hp : c.prepare text with
      | error f => exact h
      | ok p =>
        obtain ⟨s, hs⟩ := resolved_of_prepare hp
        have hrun := run_both hP h hs []
        simp only
        split
        · exact ih h _
        · split
          · rename_i hr
            rw [hr] at hrun
            exact ih hrun _
          · rename_i hr
            rwa [hr] at hrun

end Sql.Connection

namespace Store

variable {s : Store} {c : Connection}

theorem connect_both (hP : Database.Kept P) (h : P s.tables) (hc : s.connect = .ok c) :
    c.Both P := by
  unfold connect at hc
  split at hc
  · cases hc
  · obtain rfl := Except.ok.inj hc
    exact ⟨hP.nil, hP.nil⟩
  · obtain rfl := Except.ok.inj hc
    exact ⟨hP.nil, hP.nil⟩
  · rename_i db hm
    obtain rfl := Except.ok.inj hc
    have hdb : P db := by simpa [tables, hm] using h
    exact ⟨hdb, hdb⟩

theorem closing_kept (h : P s.tables) (hc : c.Both P) : P (s.closing c).tables := by
  unfold closing
  split
  · exact hc.committed
  · exact h

theorem runScript_kept (hP : Database.Kept P) (h : P s.tables) (text : String) :
    P (s.runScript text).2.tables := by
  unfold runScript
  cases hc : s.connect with
  | error e => exact h
  | ok c => exact closing_kept h (Connection.runAll_both hP (connect_both hP h hc) _ text)

theorem open_kept (hP : Database.Kept P) (h : P s.tables) : P s.open?.2.tables := by
  unfold open?
  cases hc : s.connect with
  | error e => exact h
  | ok c => exact closing_kept h (Connection.runStatements_both hP (connect_both hP h hc) _)

theorem addDefinition_kept (hP : Database.Kept P) (h : P s.tables) (now : String)
    (r : Registration) : P (s.addDefinition now r).2.tables := by
  unfold addDefinition
  cases hc : s.connect with
  | error e => exact h
  | ok c =>
    have hrun := Connection.runStatement_both hP (connect_both hP h hc) EndpointTable.addition
      (EndpointTable.bindings [r.endpointName, r.method, r.credential, r.sqlTemplate, now])
    simp only
    split <;> exact closing_kept h hrun

end Store

namespace Engine

variable {s : Store} {c : Connection}

theorem action_of_prepare {st : BoundStatement} {p : Prepared} {b : Bindings}
    (h : prepare c st = .ok (p, b)) : ∃ s, c.working.resolve s = .ok p.action := by
  obtain ⟨p', hp, h⟩ := Sql.bind_eq_ok h
  obtain ⟨b', -, h⟩ := Sql.bind_eq_ok h
  obtain ⟨rfl, -⟩ := Prod.mk.inj (Except.ok.inj h)
  cases hc : c.prepare st.sql with
  | error f =>
    rw [hc] at hp
    cases hp
  | ok p =>
    rw [hc] at hp
    obtain rfl := Except.ok.inj hp
    exact Connection.resolved_of_prepare hc

theorem apply_both (hP : Database.Kept P) (h : c.Both P) (st : BoundStatement) :
    (apply c st).2.Both P := by
  unfold apply
  cases hp : prepare c st with
  | error e => exact h
  | ok q =>
    obtain ⟨p, b⟩ := q
    obtain ⟨s, hs⟩ := action_of_prepare hp
    have hrun := Connection.run_both hP h hs b
    simp only
    split <;> rename_i hr <;> rwa [hr] at hrun

theorem applyRows_both (hP : Database.Kept P) (h : c.Both P) (plan : Plan) (n : Nat)
    (rows : List Row) : (applyRows plan n c rows).2.Both P := by
  induction rows generalizing n c with
  | nil => exact h
  | cons row rest ih =>
    have hrow := apply_both hP h (plan.bind row)
    simp only [applyRows]
    rcases ha : apply c (plan.bind row) with ⟨e | m, c₁⟩
    · rwa [ha] at hrow
    · rw [ha] at hrow
      have hrest := ih hrow (n + 1)
      simp only
      rcases hr : applyRows plan (n + 1) c₁ rest with ⟨e | more, c₂⟩ <;> rwa [hr] at hrest

theorem abandon_both (h : c.Both P) (j : Journal) : (abandon c j).1.Both P := by
  unfold abandon
  cases hc : c.rollback with
  | error f => exact h
  | ok c' => exact Connection.rollback_both h hc

theorem execute_kept (hP : Database.Kept P) (h : P s.tables) (t : Template) (b : Batch)
    (j : Journal) : P (execute t b s j).2.1.tables := by
  unfold execute
  cases hc : s.connect with
  | error e => exact h
  | ok c =>
    have hbegin := Connection.run_both hP (Store.connect_both hP h hc)
      (rfl : c.working.resolve (.begin true) = .ok (.begin true)) []
    rcases hrun : c.run (.begin true) [] with ⟨f | out, c₁⟩
    · rw [hrun] at hbegin
      simp only [hrun]
      exact Store.closing_kept h hbegin
    · rw [hrun] at hbegin
      have hrows := applyRows_both hP hbegin t.plan 0 b.rows
      rcases hr : applyRows t.plan 0 c₁ b.rows with ⟨⟨row, e⟩ | changed, c₂⟩ <;> rw [hr] at hrows
      · simp only [hrun, hr]
        exact Store.closing_kept h (abandon_both hrows j)
      · simp only [hrun, hr]
        cases hcommit : c₂.commit with
        | ok c₃ => exact Store.closing_kept h (Connection.commit_both hrows hcommit)
        | error f => exact Store.closing_kept h hrows

theorem query_kept (hP : Database.Kept P) (h : P s.tables) (t : Template) (fields : Row) :
    P (query t fields s).2.tables := by
  unfold query
  cases hc : s.connect with
  | error e => exact h
  | ok c =>
    have hconn := Store.connect_both hP h hc
    simp only
    cases hp : prepare c (Plan.bind t.plan fields) with
    | error e => exact Store.closing_kept h hconn
    | ok q =>
      obtain ⟨p, b⟩ := q
      obtain ⟨s, hs⟩ := action_of_prepare hp
      have hrun := Connection.run_both hP hconn hs b
      simp only
      split <;> rename_i hr <;> rw [hr] at hrun <;> exact Store.closing_kept h hrun

end Engine

end EndpointGate
