import EndpointGate.Proofs.Transaction

/-! What statements do to the tables. Rows that a statement puts into a table change nothing else of it;
what each row's change keeps, the whole statement keeps; a table or an index that is made has a name that
was free. -/

namespace EndpointGate.Sql

namespace Table

variable {t : Table} {r : TableRow} {rows : List TableRow}

theorem foldl_removeRow {α : Type} (id : α → Int) (gone : List α) (t : Table) :
    gone.foldl (fun t a => t.removeRow (id a)) t =
      { t with rows := t.rows.filter fun s => gone.all fun a => s.id != id a } := by
  induction gone generalizing t with
  | nil =>
    have hall : t.rows.filter (fun _ => true) = t.rows := List.filter_eq_self.mpr fun _ _ => rfl
    simp [hall]
  | cons a gone ih =>
    rw [List.foldl_cons, ih]
    simp [removeRow, List.filter_filter, Bool.and_comm]

theorem receive_put {conflict : Conflict} {t' : Table} {r' : TableRow}
    (hp : t.receive conflict r = .put t' r') : t' = { t with rows := t'.rows } := by
  have hbroken : ∀ {rule}, broken conflict rule ≠ .put t' r' := by
    intro rule
    cases conflict <;> simp [broken]
  unfold receive at hp
  simp only at hp
  split at hp
  · exact absurd hp hbroken
  · split at hp
    · exact absurd hp hbroken
    · split at hp
      · obtain ⟨rfl, -⟩ := Admission.put.inj hp
        rfl
      · split at hp
        · obtain ⟨rfl, -⟩ := Admission.put.inj hp
          rw [foldl_removeRow fun p : Constraint × TableRow => p.2.id]
          rfl
        · exact absurd hp hbroken

end Table

section Changes

variable {v : Nat → Value} {p p' : Progress}

theorem Progress.each_keeps {α : Type} {step : Progress → α → Except Stop Progress}
    {P : Progress → Prop} (hstep : ∀ p x p', P p → step p x = .ok p' → P p') (h : P p) (xs : List α) :
    P (each step p xs).1 := by
  induction xs generalizing p with
  | nil => exact h
  | cons x rest ih =>
    simp only [each]
    cases hx : step p x with
    | ok p' => exact ih (hstep p x p' h hx)
    | error s => exact h

theorem Progress.each_invariant {α : Type} {step : Progress → α → Except Stop Progress}
    {P : Database → Prop} (hstep : ∀ p x p', P p.db → step p x = .ok p' → P p'.db) (h : P p.db)
    (xs : List α) : P (each step p xs).1.db :=
  each_keeps (P := fun p => P p.db) hstep h xs

def Outcome.Leaves (P : Database → Prop) : Outcome → Prop
  | .done e => P e.db
  | .stopped _ kept => ∀ db, kept = some db → P db

theorem Outcome.leaves_ofProgress {P : Database → Prop} (before : Database) (h : P p.db)
    (stop : Option Stop) : (ofProgress before p stop).Leaves P := by
  cases stop with
  | none =>
    simp only [ofProgress]
    split
    · exact h
    · exact fun db hdb => by cases hdb
  | some s =>
    simp only [ofProgress]
    split_ifs
    · exact fun db hdb => by cases hdb
    · exact fun db hdb => Option.some.inj hdb ▸ h
    · exact fun db hdb => by cases hdb

theorem Outcome.leaves_ofExcept {P : Database → Prop} {r : Except Stop Effect}
    (h : ∀ e, r = .ok e → P e.db) : (ofExcept r).Leaves P := by
  cases r with
  | ok e => exact h e rfl
  | error s => exact fun db hdb => by cases hdb

theorem Action.leaves_createIndex {P : Database → Prop} {db : Database} {table : String} {i : Index}
    (h : ∀ t, db.find? table = some t → P (db.update { t with indexes := t.indexes ++ [i] })) :
    ((Action.createIndex table i).perform db v).Leaves P := by
  apply Outcome.leaves_ofExcept
  intro e he
  obtain ⟨db', hdb, rfl⟩ := map_eq_ok he
  unfold Database.createIndex at hdb
  split at hdb
  · cases hdb
  · rename_i t ht
    split_ifs at hdb
    obtain rfl := Except.ok.inj hdb
    exact h t ht

theorem Action.leaves_select {P : Database → Prop} {db : Database} (h : P db) (r : Retrieval) :
    ((Action.select r).perform db v).Leaves P := by
  apply Outcome.leaves_ofExcept
  intro e he
  split at he
  · obtain rfl := Except.ok.inj he
    exact h
  · cases he

end Changes

section Resolution

theorem Database.resolveTable_eq_ok {d : TableDef} {t : Table} (h : resolveTable d = .ok t) :
    t.name = d.name ∧ ∃ t₀ key, indexesOf t₀ d key = .ok t.indexes := by
  unfold resolveTable at h
  extract_lets autoincrement named at h
  split at h
  · obtain ⟨_, hthrow, -⟩ := bind_eq_ok h
    cases hthrow
  obtain ⟨columns, -, h⟩ := bind_eq_ok h
  extract_lets twice distinct at h
  clear_value twice
  split at h
  · obtain ⟨_, hthrow, -⟩ := bind_eq_ok h
    cases hthrow
  obtain ⟨key, -, h⟩ := bind_eq_ok h
  extract_lets idColumn keyed at h
  split at h
  · obtain ⟨_, hthrow, -⟩ := bind_eq_ok h
    cases hthrow
  obtain ⟨indexes, hindexes, h⟩ := bind_eq_ok h
  obtain ⟨checks, -, h⟩ := bind_eq_ok h
  obtain ⟨own, -, h⟩ := bind_eq_ok h
  obtain ⟨whole, -, h⟩ := bind_eq_ok h
  obtain rfl := Except.ok.inj h
  exact ⟨rfl, _, _, hindexes⟩

theorem Database.resolve_eq_createTable {db : Database} {st : Statement} {t : Table}
    (h : db.resolve st = .ok (.createTable t)) :
    ∃ d, resolveTable d = .ok t ∧ db.hasName d.name = false := by
  cases st with
  | createTable d unlessThere =>
    simp only [resolve, resolveCreateTable] at h
    split_ifs at h with hfound _ hfree
    · cases h
    · obtain ⟨t', ht, he⟩ := map_eq_ok h
      obtain rfl := Action.createTable.inj he
      exact ⟨d, ht, by simpa using hfree⟩
  | createIndex d unlessThere =>
    rcases resolveCreateIndex_cases h with he | ⟨table, i, he, -⟩ <;> cases he
  | dropTable name ifThere =>
    simp only [resolve] at h
    split at h
    · cases h
    · split_ifs at h
      cases h
  | insert | update | delete | select =>
    obtain ⟨i, -, he⟩ := map_eq_ok h
    cases he
  | _ => cases h

theorem Database.resolve_eq_createIndex {db : Database} {st : Statement} {table : String} {i : Index}
    (h : db.resolve st = .ok (.createIndex table i)) : ∃ n, i.name = some n ∧ db.find? n = none := by
  cases st with
  | createTable d unlessThere =>
    simp only [resolve, resolveCreateTable] at h
    split_ifs at h
    · cases h
    · obtain ⟨t, -, he⟩ := map_eq_ok h
      cases he
  | createIndex d unlessThere =>
    rcases resolveCreateIndex_cases h with he | ⟨table, i, he, hname, hfree⟩
    · cases he
    · obtain ⟨rfl, rfl⟩ := Action.createIndex.inj he
      exact ⟨d.name, hname, hfree⟩
  | dropTable name ifThere =>
    simp only [resolve] at h
    split at h
    · cases h
    · split_ifs at h
      cases h
  | insert | update | delete | select =>
    obtain ⟨i, -, he⟩ := map_eq_ok h
    cases he
  | _ => cases h

end Resolution

end EndpointGate.Sql
