import EndpointGate.Proofs.BatchRun

/-! A batch is kept as a whole or not at all. What a committed batch has done is what its statements do
to tables one after another, each for itself; a batch that failed has left the store as it was, and the
row that is named is the first that did not succeed. -/

namespace EndpointGate

open Sql (Connection)

namespace Engine

/-- What a committed batch has done: it ran inside one transaction from its first row to its last, and
the store has what the rows' statements make of its tables. A dropped table is counted again by every
later row, which finds nothing to drop; all other counts are the rows' own. -/
structure Committed (t : Template) (b : Batch) (s : Store) (o : BatchOutcome) (s' : Store) : Prop where
  inside : ∃ c, s.begun = .ok c ∧ ∀ k ≤ b.size, ∃ counts c',
    Succeeds t.plan c (b.rows.take k) counts c' ∧ c'.inTransaction = true ∧ c'.committed = s.tables
  rowsApplied : o.rowsApplied = b.size
  inOrder : ∃ db counts, applied t.plan s.tables b.rows = .ok (db, counts) ∧ s' = s.keeping db ∧
    (t.kind? ≠ some .dropping → o.rowsAffected = counts.sum) ∧
    (t.kind? = some .dropping → o.rowsAffected = b.size * counts.sum) ∧
    (o.rowsAffected = counts.sum ↔ t.kind? ≠ some .dropping ∨ b.size = 1 ∨ counts.sum = 0)

structure FirstFailure (t : Template) (b : Batch) (s : Store) (row : Nat) (cause : StoreError) :
    Prop where
  position : 1 ≤ row ∧ row ≤ b.size
  failed : ∃ c c₁ c₂ counts r, s.begun = .ok c ∧
    Succeeds t.plan c (b.rows.take (row - 1)) counts c₁ ∧ b.rows[row - 1]? = some r ∧
    apply c₁ (Plan.bind t.plan r) = (.error cause, c₂)

section Batch

variable {t : Template} {b : Batch} {s : Store} {c c₁ c₂ : Connection} {counts : List Nat}

theorem committed_abandon (c : Connection) (j : Journal) : (abandon c j).1.committed = c.committed := by
  unfold abandon Connection.rollback
  cases c.inTransaction <;> rfl

theorem execute_of_begun_error {e : StoreError} (h : s.begun = .error e) (j : Journal) :
    execute t b s j = (.error (.store e), s, j) := by
  unfold Store.begun at h
  unfold execute
  cases hc : s.connect with
  | error x =>
    simp only [hc] at h
    rw [Except.error.inj h]
  | ok c =>
    obtain ⟨hcomm, -, -, hin⟩ := Store.connect_atRest hc
    have hkeep : ∀ c' : Connection, c'.committed = c.committed → s.closing c' = s := by
      intro c' hc'
      rw [Store.closing_eq, hc', hcomm, Store.keeping_tables]
    simp only [hc] at h ⊢
    rcases hrun : c.run (.begin true) [] with ⟨f | out, c'⟩
    · simp only [hrun] at h ⊢
      have hc' : c'.committed = c.committed := by
        cases ha : c.access <;>
          simp [Connection.run, Sql.Action.writes, ha, Sql.Access.write, Connection.perform,
            Connection.begin, hin] at hrun <;> rw [← hrun.2]
      rw [hkeep c' hc', ← Except.error.inj h]
    · simp [hrun] at h

theorem execute_of_begun (h : s.begun = .ok c) (j : Journal) :
    execute t b s j = match applyRows t.plan 0 c b.rows with
      | (.error (row, e), c) =>
        (.error (.rowFailed row e), s.closing (abandon c j).1, (abandon c j).2)
      | (.ok changed, c) => match c.commit with
        | .ok c => (.ok ⟨b.size, changed⟩, s.closing c, j)
        | .error f => (.error (.store (.sql f)), s.closing c, j) := by
  unfold Store.begun at h
  unfold execute
  cases hc : s.connect with
  | error x => simp [hc] at h
  | ok c₀ =>
    simp only [hc] at h ⊢
    rcases hrun : c₀.run (.begin true) [] with ⟨f | out, c'⟩
    · simp [hrun] at h
    · simp only [hrun] at h ⊢
      obtain rfl := Except.ok.inj h
      rfl

theorem execute_of_failure (h : s.begun = .ok c) {pre : List Row} {r : Row} {rest : List Row}
    (hb : b.rows = pre ++ r :: rest) (hs : Succeeds t.plan c pre counts c₁) {x : StoreError}
    (hf : apply c₁ (Plan.bind t.plan r) = (.error x, c₂)) (j : Journal) :
    execute t b s j = (.error (.rowFailed (pre.length + 1) x), s, (abandon c₂ j).2) := by
  obtain ⟨ht, hw, -⟩ := Store.begun_transacting h
  have hrows : applyRows t.plan 0 c b.rows = (.error (pre.length + 1, x), c₂) :=
    (applyRows_error_iff ..).mpr ⟨pre, r, rest, counts, c₁, hb, by omega, hs, hf⟩
  have hcomm := committed_of_failure hs ht hw (Template.kind?_bind t r) hf
  rw [execute_of_begun h, hrows]
  simp only [Store.closing_eq, committed_abandon, hcomm, Store.keeping_tables]

theorem execute_of_control (h : s.begun = .ok c) (hs : Succeeds t.plan c b.rows counts c₁)
    (hk : t.kind? = some .control) (j : Journal) :
    execute t b s j = (.error (.store (.sql .noTransaction)), s, j) := by
  obtain ⟨ht, hw, -⟩ := Store.begun_transacting h
  have hrows : applyRows t.plan 0 c b.rows = (.ok counts.sum, c₁) :=
    (applyRows_ok_iff ..).mpr ⟨counts, hs, rfl⟩
  obtain ⟨hrest, hout⟩ := hs.control ⟨ht.committed, hw, ht.access⟩ ht.inTransaction hk
  rw [execute_of_begun h, hrows]
  simp [Connection.commit, hout b.nonempty, Store.closing_eq, hrest.committed, Store.keeping_tables]

theorem execute_of_success (h : s.begun = .ok c) (hs : Succeeds t.plan c b.rows counts c₁)
    (hk : t.kind? ≠ some .control) (j : Journal) :
    execute t b s j = (.ok ⟨b.size, counts.sum⟩, s.keeping c₁.working, j) := by
  obtain ⟨ht, -, -⟩ := Store.begun_transacting h
  have hrows : applyRows t.plan 0 c b.rows = (.ok counts.sum, c₁) :=
    (applyRows_ok_iff ..).mpr ⟨counts, hs, rfl⟩
  rw [execute_of_begun h, hrows]
  simp [Connection.commit, (hs.transacting ht hk).inTransaction, Store.closing_eq]

theorem execute_cases (t : Template) (b : Batch) (s : Store) (j : Journal) :
    (∃ e, s.begun = .error e ∧ execute t b s j = (.error (.store e), s, j)) ∨
    (∃ c pre r rest counts c₁ x c₂, s.begun = .ok c ∧ b.rows = pre ++ r :: rest ∧
      Succeeds t.plan c pre counts c₁ ∧ apply c₁ (Plan.bind t.plan r) = (.error x, c₂) ∧
      execute t b s j = (.error (.rowFailed (pre.length + 1) x), s, (abandon c₂ j).2)) ∨
    (∃ c counts c₁, s.begun = .ok c ∧ Succeeds t.plan c b.rows counts c₁ ∧
      t.kind? = some .control ∧
      execute t b s j = (.error (.store (.sql .noTransaction)), s, j)) ∨
    ∃ c counts c₁, s.begun = .ok c ∧ Succeeds t.plan c b.rows counts c₁ ∧
      t.kind? ≠ some .control ∧
      execute t b s j = (.ok ⟨b.size, counts.sum⟩, s.keeping c₁.working, j) := by
  cases h : s.begun with
  | error e => exact Or.inl ⟨e, rfl, execute_of_begun_error h j⟩
  | ok c =>
    right
    rcases hr : applyRows t.plan 0 c b.rows with ⟨⟨m, x⟩ | k, c'⟩
    · left
      obtain ⟨pre, r, rest, counts, c₁, hb, -, hs, hf⟩ := (applyRows_error_iff ..).mp hr
      exact ⟨c, pre, r, rest, counts, c₁, x, c', rfl, hb, hs, hf, execute_of_failure h hb hs hf j⟩
    · right
      obtain ⟨counts, hs, -⟩ := (applyRows_ok_iff ..).mp hr
      by_cases hk : t.kind? = some .control
      · exact Or.inl ⟨c, counts, c', rfl, hs, hk, execute_of_control h hs hk j⟩
      · exact Or.inr ⟨c, counts, c', rfl, hs, hk, execute_of_success h hs hk j⟩

theorem committed_of_success (h : s.begun = .ok c) (hs : Succeeds t.plan c b.rows counts c₁)
    (hk : t.kind? ≠ some .control) : Committed t b s ⟨b.size, counts.sum⟩ (s.keeping c₁.working) := by
  obtain ⟨ht, hw, hn⟩ := Store.begun_transacting h
  refine ⟨⟨c, h, fun k _ => ?_⟩, rfl, ?_⟩
  · obtain ⟨counts', c', hs'⟩ := hs.take k
    have ht' := hs'.transacting ht hk
    exact ⟨counts', c', hs', ht'.inTransaction, ht'.committed⟩
  · by_cases hd : t.kind? = some .dropping
    · obtain ⟨own, happ, hsum⟩ := hs.dropped ht hd hn
      rw [hw] at happ
      refine ⟨c₁.working, own, happ, rfl, fun hne => absurd hd hne, fun _ => hsum, ?_⟩
      have hagree : b.size * own.sum = own.sum ↔ b.size = 1 ∨ own.sum = 0 := by
        by_cases h0 : own.sum = 0
        · simp [h0]
        · simp [h0, Nat.mul_eq_right h0]
      change counts.sum = own.sum ↔ _
      rw [hsum, ← hagree]
      exact ⟨Or.inr, fun hor => hor.resolve_left fun hne => hne hd⟩
    · have happ := hs.applied_eq ht hk hd (Or.inr hn)
      rw [hw] at happ
      exact ⟨c₁.working, counts, happ, rfl, fun _ => rfl, fun hd' => absurd hd' hd,
        fun _ => Or.inl hd, fun _ => rfl⟩

theorem firstFailure_of_failure (h : s.begun = .ok c) {pre : List Row} {r : Row} {rest : List Row}
    (hb : b.rows = pre ++ r :: rest) (hs : Succeeds t.plan c pre counts c₁) {x : StoreError}
    (hf : apply c₁ (Plan.bind t.plan r) = (.error x, c₂)) :
    FirstFailure t b s (pre.length + 1) x := by
  have hlen : b.size = pre.length + (rest.length + 1) := by simp [Batch.size, hb]
  refine ⟨⟨by omega, by omega⟩, c, c₁, c₂, counts, r, h, ?_, ?_, hf⟩
  · simpa [hb] using hs
  · simp [hb]

theorem execute_of_same_failure (h : s.begun = .ok c) {pre : List Row} {r : Row} {rest : List Row}
    (hb : b.rows = pre ++ r :: rest) (hs : Succeeds t.plan c pre counts c₁) {x : StoreError}
    (hf : apply c₁ (Plan.bind t.plan r) = (.error x, c₂)) (b' : Batch)
    (hb' : b'.rows.take (pre.length + 1) = b.rows.take (pre.length + 1)) (j : Journal) :
    execute t b' s j = execute t b s j := by
  have htake : b.rows.take (pre.length + 1) = pre ++ [r] := by
    simp [hb, List.take_append, List.take_of_length_le]
  have hsame : b'.rows = pre ++ r :: b'.rows.drop (pre.length + 1) := by
    calc b'.rows = b'.rows.take (pre.length + 1) ++ b'.rows.drop (pre.length + 1) :=
          (List.take_append_drop ..).symm
      _ = pre ++ [r] ++ b'.rows.drop (pre.length + 1) := by rw [hb', htake]
      _ = pre ++ r :: b'.rows.drop (pre.length + 1) := by simp
  rw [execute_of_failure h hb hs hf, execute_of_failure h hsame hs hf]

/-- A batch is kept whole or leaves the store as it was, and it is kept just when its statement is no
transaction statement and all rows' statements can be applied one after another. Of a batch that failed
at a row, no later row has been looked at. -/
theorem execute_all_or_nothing (t : Template) (b : Batch) (s : Store) (j : Journal) :
    ((∃ o, (execute t b s j).1 = .ok o ∧ Committed t b s o (execute t b s j).2.1) ∨
      ∃ e, (execute t b s j).1 = .error e ∧ (execute t b s j).2.1 = s ∧
        ∀ row cause, e = .rowFailed row cause → FirstFailure t b s row cause ∧
          ∀ b' : Batch, b'.rows.take row = b.rows.take row → execute t b' s j = execute t b s j) ∧
    ((∃ o, (execute t b s j).1 = .ok o) ↔
      (∃ c, s.begun = .ok c) ∧ t.kind? ≠ some .control ∧
        ∃ db counts, applied t.plan s.tables b.rows = .ok (db, counts)) := by
  rcases execute_cases t b s j with ⟨e, h, he⟩ |
    ⟨c, pre, r, rest, counts, c₁, x, c₂, h, hb, hs, hf, he⟩ |
    ⟨c, counts, c₁, h, hs, hk, he⟩ | ⟨c, counts, c₁, h, hs, hk, he⟩
  · refine ⟨Or.inr ⟨_, by rw [he], by rw [he], fun row cause hr => by simp at hr⟩, ?_⟩
    simp [he, h]
  · refine ⟨Or.inr ⟨_, by rw [he], by rw [he], fun row cause hr => ?_⟩, ?_⟩
    · obtain ⟨rfl, rfl⟩ := ExecutionError.rowFailed.inj hr
      exact ⟨firstFailure_of_failure h hb hs hf,
        fun b' hb' => execute_of_same_failure h hb hs hf b' hb' j⟩
    · constructor
      · rintro ⟨o, ho⟩
        simp [he] at ho
      · rintro ⟨-, hk, db, own, happ⟩
        obtain ⟨ht, hw, -⟩ := Store.begun_transacting h
        obtain ⟨counts', c', hs'⟩ := Succeeds.of_applied ht hk (hw ▸ happ)
        rw [execute_of_success h hs' hk] at he
        simp at he
  · refine ⟨Or.inr ⟨_, by rw [he], by rw [he], fun row cause hr => by simp at hr⟩, ?_⟩
    simp [he, hk]
  · have hdone := committed_of_success h hs hk
    refine ⟨Or.inl ⟨_, by rw [he], by rw [he]; exact hdone⟩, ?_⟩
    obtain ⟨db, own, happ, -⟩ := hdone.inOrder
    simp [he, h, hk, happ]

/-- Two empty rows drop a table that had two rows: each row shows the two rows as its change, though the
second had no table to drop. -/
theorem dropped_rows_counted_twice :
    let column (name : String) : Sql.Column :=
      { name, typed := true, affinity := .integer, notNull := false, default := .null }
    let parent : Sql.Table := {
      name := "p"
      columns := [column "id"]
      idColumn := some 0
      rows := [⟨1, [.null]⟩, ⟨2, [.null]⟩] }
    let child : Sql.Table := { name := "c", columns := [column "r"], foreignKeys := [⟨[0], "p", []⟩] }
    let t : Template := ⟨"DROP TABLE IF EXISTS p"⟩
    let b : Batch := ⟨[[], []], List.cons_ne_nil _ _⟩
    let s : Store := { path := "gate.db", medium := .database [parent, child] }
    (execute t b s { threshold := .fatal }).1.toOption = some ⟨2, 4⟩ ∧
      (applied t.plan s.tables b.rows).toOption.map Prod.snd = some [2, 0] := by
  decide +kernel

end Batch

end Engine

end EndpointGate
