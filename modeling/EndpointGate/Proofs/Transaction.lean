import EndpointGate.Sql.Connection
import Mathlib.Tactic.SplitIfs

/-! What one statement does inside a transaction. A statement that is no transaction statement leaves
the kept tables alone, and works on the transaction's tables as it would work on kept ones; when it
fails, what is kept has not changed, whatever became of the transaction. -/

namespace EndpointGate.Sql

/-- What a statement is to the transaction it runs in and to the count of changed rows. -/
inductive Kind
  | control
  | counting
  | dropping
  | silent
  deriving DecidableEq

def Statement.kind : Statement → Kind
  | .begin _ | .commit | .rollback => .control
  | .insert .. | .update .. | .delete .. => .counting
  | .dropTable .. => .dropping
  | .empty | .createTable .. | .createIndex .. | .select _ => .silent

def Action.kind : Action → Kind
  | .begin _ | .commit | .rollback => .control
  | .insert _ | .update _ | .delete _ => .counting
  | .dropTable _ => .dropping
  | .empty | .nothing | .createTable _ | .createIndex .. | .select _ => .silent

theorem map_eq_ok {ε α β : Type} {f : α → β} {x : Except ε α} {b : β} (h : x.map f = .ok b) :
    ∃ a, x = .ok a ∧ f a = b := by
  cases x with
  | error e => exact absurd h (by simp [Except.map])
  | ok a => exact ⟨a, rfl, Except.ok.inj h⟩

theorem bind_eq_ok {ε α β : Type} {x : Except ε α} {f : α → Except ε β} {b : β}
    (h : (x >>= f) = .ok b) : ∃ a, x = .ok a ∧ f a = .ok b := by
  cases x with
  | error e => cases h
  | ok a => exact ⟨a, rfl, h⟩

theorem Database.kind_resolveCreateTable {db : Database} {d : TableDef} {unlessThere : Bool}
    {a : Action} (h : db.resolveCreateTable d unlessThere = .ok a) : a.kind = .silent := by
  unfold resolveCreateTable at h
  split_ifs at h
  · obtain rfl := Except.ok.inj h
    rfl
  · obtain ⟨t, -, rfl⟩ := map_eq_ok h
    rfl

theorem Database.resolveCreateIndex_cases {db : Database} {d : IndexDef} {unlessThere : Bool}
    {a : Action} (h : db.resolveCreateIndex d unlessThere = .ok a) :
    a = .nothing ∨ ∃ table i, a = .createIndex table i ∧ i.name = some d.name ∧
      db.find? d.name = none := by
  unfold resolveCreateIndex at h
  cases ht : db.require d.table with
  | error f => simp [ht, bind, Except.bind] at h
  | ok t =>
    simp only [ht, bind, Except.bind, pure, Except.pure, throw, throwThe, MonadExceptOf.throw] at h
    split_ifs at h with hown hfound
    · exact Or.inl (Except.ok.inj h).symm
    · cases hc : columnIndexes t d.columns with
      | error f => simp [hc] at h
      | ok columns =>
        rw [hc] at h
        exact Or.inr ⟨_, _, (Except.ok.inj h).symm, rfl, by simpa using hfound⟩

theorem Database.kind_resolve {db : Database} {st : Statement} {a : Action}
    (h : db.resolve st = .ok a) : a.kind = st.kind ∨ st.kind = .dropping ∧ a = .nothing := by
  cases st with
  | empty | begin | commit | rollback =>
    obtain rfl := Except.ok.inj h
    exact Or.inl rfl
  | createTable d unlessThere => exact Or.inl (kind_resolveCreateTable h)
  | createIndex d unlessThere =>
    rcases resolveCreateIndex_cases h with rfl | ⟨table, i, rfl, -⟩ <;> exact Or.inl rfl
  | dropTable name ifThere =>
    simp only [resolve] at h
    split at h
    · obtain rfl := Except.ok.inj h
      exact Or.inl rfl
    · split_ifs at h
      obtain rfl := Except.ok.inj h
      exact Or.inr ⟨rfl, rfl⟩
  | insert | update | delete | select =>
    obtain ⟨i, -, rfl⟩ := map_eq_ok h
    exact Or.inl rfl

theorem Outcome.changes_ofProgress {db : Database} {p : Progress} {stop : Option Stop} {e : Effect}
    (h : Outcome.ofProgress db p stop = .done e) : e.changes = some p.changed := by
  cases stop with
  | none =>
    simp only [ofProgress] at h
    split_ifs at h
    obtain rfl := Outcome.done.inj h
    rfl
  | some s =>
    simp only [ofProgress] at h
    split_ifs at h

theorem Outcome.ofExcept_eq_done {r : Except Stop Effect} {e : Effect}
    (h : Outcome.ofExcept r = .done e) : r = .ok e := by
  cases r with
  | error s => exact absurd h (by simp [ofExcept])
  | ok x => rw [Outcome.done.inj h]

theorem Action.changes_of_counting {a : Action} {db : Database} {v : Nat → Value} {e : Effect}
    (ha : a.kind = .counting) (h : a.perform db v = .done e) : e.changes.isSome := by
  cases a with
  | insert i => simp [Outcome.changes_ofProgress h]
  | update u => simp [Outcome.changes_ofProgress h]
  | delete d => simp [@Outcome.changes_ofProgress db _ none _ h]
  | _ => simp [Action.kind] at ha

theorem Action.changes_of_silent {a : Action} {db : Database} {v : Nat → Value} {e : Effect}
    (ha : a.kind = .silent) (h : a.perform db v = .done e) : e.changes = none := by
  cases a with
  | empty => simp [Action.perform] at h
  | nothing | createTable t =>
    obtain rfl := Outcome.done.inj h
    rfl
  | createIndex table i =>
    obtain ⟨db', -, rfl⟩ := map_eq_ok (Outcome.ofExcept_eq_done h)
    rfl
  | select r =>
    have hr := Outcome.ofExcept_eq_done h
    cases hrows : r.rows db v with
    | error f => simp [hrows] at hr
    | ok rows =>
      rw [hrows] at hr
      obtain rfl := Except.ok.inj hr
      rfl
  | _ => simp [Action.kind] at ha

theorem Action.changes_of_isReadOnly {a : Action} {db : Database} {v : Nat → Value} {e : Effect}
    (ha : a.isReadOnly) (h : a.perform db v = .done e) : e.changes = none := by
  cases a with
  | empty | nothing | select => exact changes_of_silent rfl h
  | begin | commit | rollback =>
    obtain rfl := Outcome.done.inj h
    rfl
  | _ => simp [isReadOnly] at ha

theorem Database.find?_drop {db : Database} {name : String} {t : Table} (h : db.find? name = some t) :
    (db.drop t.name).find? name = none := by
  have hf : List.find? (fun u : Table => sameName u.name name) db = some t := h
  have hn := List.find?_some hf
  apply List.find?_eq_none.mpr
  intro u hu he
  have hu' := (List.mem_filter.mp hu).2
  have hs : sameName u.name t.name = true := by
    simp only [sameName, beq_iff_eq] at he hn ⊢
    exact he.trans hn.symm
  simp [hs] at hu'

theorem Database.db_dropTable {db : Database} {name : String} {e : Effect}
    (h : db.dropTable name = .ok e) : e.db = db.drop name := by
  unfold dropTable at h
  split at h
  · cases h
  · split_ifs at h <;> (obtain rfl := Except.ok.inj h; rfl)

namespace Connection

structure Transacting (c : Connection) (db : Database) : Prop where
  inTransaction : c.inTransaction = true
  committed : c.committed = db
  access : c.access = .full

structure AtRest (c : Connection) (db : Database) : Prop where
  committed : c.committed = db
  working : c.working = db
  access : c.access = .full

theorem run_of_full {c : Connection} (h : c.access = .full) (a : Action) (b : Bindings) :
    c.run a b = c.perform a b := by
  unfold run
  cases a.writes <;> simp [h, Access.write]

theorem perform_of_ne_control (c : Connection) {a : Action} (ha : a.kind ≠ .control) (b : Bindings) :
    c.perform a b = match a.perform c.working b.value with
      | .done e => (.ok e.rows, c.accept e)
      | .stopped s kept => (.error s.failure, c.stopped s kept) := by
  cases a <;> first | rfl | exact absurd rfl ha

theorem accept_of_transacting {c : Connection} {db : Database} (h : c.Transacting db) (e : Effect) :
    c.accept e = { c with working := e.db, changes := e.changes.getD c.changes
                          lastId := e.lastId.getD c.lastId } := by
  simp [accept, settled, h.inTransaction]

theorem committed_stopped {c : Connection} {db : Database} (h : c.Transacting db) (s : Stop)
    (kept : Option Database) : (c.stopped s kept).committed = db := by
  unfold stopped
  split_ifs with hr
  · exact h.committed
  · cases kept with
    | none => exact h.committed
    | some db' => simpa [settled, h.inTransaction] using h.committed

theorem run_of_control {c : Connection} {db : Database} (h : c.AtRest db) {a : Action}
    (ha : a.kind = .control) (b : Bindings) :
    (c.run a b).2.AtRest db ∧ ∀ rows, (c.run a b).1 = .ok rows →
      (c.run a b).2.inTransaction = !c.inTransaction ∧
      ((∃ lock, a = .begin lock) ↔ c.inTransaction = false) := by
  obtain ⟨hc, hw, hf⟩ := h
  rw [run_of_full hf]
  cases a with
  | begin lock =>
    cases ht : c.inTransaction <;> simp [perform, begin, ht] <;> exact ⟨hc, hw, hf⟩
  | commit =>
    cases ht : c.inTransaction <;> simp [perform, commit, ht]
    · exact ⟨hc, hw, hf⟩
    · exact ⟨hw, hw, hf⟩
  | rollback =>
    cases ht : c.inTransaction <;> simp [perform, rollback, ht]
    · exact ⟨hc, hw, hf⟩
    · exact ⟨hc, hc, hf⟩
  | _ => simp [Action.kind] at ha

end Connection

end EndpointGate.Sql
