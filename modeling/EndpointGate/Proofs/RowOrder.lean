import EndpointGate.Sql.Connection

/-! The rows of a retrieval that asks for the order of their numbers. Along which index they are met
makes no difference then: they come as they stand in the table. -/

namespace EndpointGate.Sql

namespace Table

def Ascending (t : Table) : Prop := t.rows.Pairwise fun a b => a.id < b.id

instance (t : Table) : Decidable t.Ascending := inferInstanceAs (Decidable (t.rows.Pairwise _))

theorem alongIndex_perm (t : Table) (i : Index) : (t.alongIndex i).Perm t.rows :=
  List.mergeSort_perm ..

theorem scan_perm (t : Table) (condition : Expr Place) (order : List SortTerm) (used : List Nat) :
    (t.scan condition order used).Perm t.rows := by
  unfold scan
  extract_lets path
  cases path with
  | none => exact List.Perm.refl _
  | some i =>
    simp only
    split
    · exact (List.reverse_perm _).trans (t.alongIndex_perm i)
    · exact t.alongIndex_perm i

end Table

namespace Retrieval

def byNumber : List SortTerm := [⟨.column ⟨none, .integer⟩, false⟩]

theorem compareSorted_byNumber (v : Nat → Value) (a b : TableRow) :
    compareSorted v a b byNumber = compare a.id b.id := by
  simp [byNumber, compareSorted, Expr.eval, rowScope, Value.order]

variable {t : Table}

theorem met_perm (r : Retrieval) (v : Nat → Value) (order : List SortTerm) (t : Table) :
    (r.met v order t).Perm (matching v r.condition t.rows) :=
  (t.scan_perm ..).filter _

theorem chosen_byNumber {r : Retrieval} (ho : r.order = byNumber)
    (hs : t.rows.Pairwise fun a b => a.id < b.id) (v : Nat → Value) :
    r.chosen v t = matching v r.condition t.rows := by
  have hle : ∀ a b : TableRow,
      (compareSorted v a b r.order != .gt) = true ↔ a.id ≤ b.id := by
    intro a b
    rw [ho, compareSorted_byNumber]
    simp [← Int.isLE_compare, Ordering.isLE_iff_ne_gt]
  have hmatching : (matching v r.condition t.rows).Pairwise fun a b => a.id < b.id := hs.filter _
  have hperm : (r.chosen v t).Perm (matching v r.condition t.rows) :=
    (List.mergeSort_perm ..).trans (r.met_perm v r.order t)
  -- no number occurs twice, so that sorted rows are strictly sorted and there is one way to sort them
  have hne : (r.chosen v t).Pairwise fun a b => a.id ≠ b.id :=
    (hmatching.imp fun h => Int.ne_of_lt h).perm hperm.symm Ne.symm
  have hsorted : (r.chosen v t).Pairwise fun a b => a.id ≤ b.id :=
    (List.pairwise_mergeSort
      (fun a b c hab hbc => (hle a c).mpr (Int.le_trans ((hle a b).mp hab) ((hle b c).mp hbc)))
      (fun a b => by simpa [hle] using Int.le_total a.id b.id) _).imp fun h => (hle _ _).mp h
  have hstrict : (r.chosen v t).Pairwise fun a b => a.id < b.id :=
    (hsorted.and hne).imp fun h => by omega
  apply List.Perm.eq_of_pairwise ?_ hstrict hmatching hperm
  intro a b _ _ hab hba
  omega

theorem rows_byNumber {r : Retrieval} {db : Database} {name : String} (hn : r.table = some name)
    (ht : db.find? name = some t) (hs : t.rows.Pairwise fun a b => a.id < b.id)
    (hc : r.counts = false) (ho : r.order = byNumber) (hf : r.offset = none) {v : Nat → Value}
    {limit : Option Int} (hl : bound v r.limit = .ok limit) :
    r.rows db v = .ok (between limit none
      ((matching v r.condition t.rows).map fun f => row (rowScope v f) r.output)) := by
  have hall : r.allRows db v =
      (matching v r.condition t.rows).map fun f => row (rowScope v f) r.output := by
    simp [allRows, hn, ht, hc, chosen_byNumber ho hs]
  have hoffset : bound v r.offset = .ok none := by rw [hf]; rfl
  simp [rows, hl, hoffset, hall, bind, Except.bind, pure, Except.pure]

end Retrieval

theorem Connection.runStatement_select {c : Connection} {s : Statement} {r : Retrieval}
    {b : Bindings} {rows : List (List Value)} (hs : s.namesTables = true)
    (hr : c.working.resolve s = .ok (.select r)) (hrows : r.rows c.working b.value = .ok rows) :
    (c.runStatement s b).1 = c.access.read.map fun _ => rows := by
  have hrun : c.run (.select r) b = (.ok rows, c.accept { db := c.working, rows }) := by
    simp [run, Action.writes, Action.isReadOnly, perform, Action.perform, hrows, Outcome.ofExcept]
  have hres : c.resolve s = c.access.read.map fun _ => .select r := by
    cases hread : c.access.read <;> simp [resolve, hs, hread, hr, bind, Except.bind, Except.map]
  cases hread : c.access.read with
  | error f => simp [runStatement, hres, hread, Except.map]
  | ok u => simp [runStatement, hres, hread, hrun, Except.map]

end EndpointGate.Sql
