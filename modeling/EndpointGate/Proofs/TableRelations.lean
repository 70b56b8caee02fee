import EndpointGate.Proofs.StoreInvariant
import EndpointGate.Proofs.TableNames
import Mathlib.Data.List.Basic
import Mathlib.Data.List.Flatten

/-! What the tables of a store are to each other. Rows that come into a table which itself points at no
other one take the parent from no row. No statement leaves an index with the name of a table. -/

namespace EndpointGate.Sql

structure Table.Grows (t t' : Table) : Prop where
  columns : t'.columns = t.columns
  idColumn : t'.idColumn = t.idColumn
  primaryKey : t'.primaryKey = t.primaryKey
  indexes : t.indexes ⊆ t'.indexes
  rows : t.rows ⊆ t'.rows

theorem Table.Grows.refl (t : Table) : t.Grows t := ⟨rfl, rfl, rfl, fun _ h => h, fun _ h => h⟩

def Table.keyColumns? (t : Table) (k : ForeignKey) : Option (List Nat) :=
  if k.parentColumns.isEmpty then
    match t.idColumn with
    | some i => some [i]
    | none => if t.primaryKey.isEmpty then none else some t.primaryKey
  else k.parentColumns.mapM t.columnIndex?

def Table.isKey (t : Table) (columns : List Nat) : Bool :=
  columns.map some = [t.idColumn] ||
    t.indexes.any fun i => i.unique && i.columns.all columns.contains && columns.all i.columns.contains

/-- Other rows have come into one of the tables. -/
def Database.Reworked (db db' : Database) : Prop :=
  ∃ n t rows lastId, db.find? n = some t ∧ db' = db.update { t with rows, lastId }

section Rows

variable {v : Nat → Value} {p p' : Progress}

theorem Insertion.step_reworks (i : Insertion) {s : RowSource} (h : i.step v p s = .ok p') :
    p.db.Reworked p'.db := by
  unfold step at h
  split at h
  · rename_i t ht
    obtain ⟨id, -, h⟩ := bind_eq_ok h
    simp only at h
    split at h
    · rename_i u r hput
      obtain rfl := Except.ok.inj h
      refine ⟨_, t, u.rows, (t.useId id).lastId, ht, ?_⟩
      rw [Progress.record, Table.receive_put hput]
      rfl
    · obtain rfl := Except.ok.inj h
      exact ⟨_, t, t.rows, _, ht, rfl⟩
    · cases h
  · cases h

theorem Alteration.step_reworks (a : Alteration) {old : Int} (h : a.step v p old = .ok p') :
    p'.db = p.db ∨ p.db.Reworked p'.db := by
  unfold step at h
  split at h
  · rename_i t ht
    split at h
    · simp only at h
      split at h
      · obtain ⟨id, -, h⟩ := bind_eq_ok h
        split at h
        · rename_i u r hput
          obtain rfl := Except.ok.inj h
          refine Or.inr ⟨_, t, u.rows, t.lastId, ht, ?_⟩
          rw [Progress.record, Table.receive_put hput]
          rfl
        · obtain rfl := Except.ok.inj h
          exact Or.inl rfl
        · cases h
      · obtain ⟨id, hid, -⟩ := bind_eq_ok h
        cases hid
    · obtain rfl := Except.ok.inj h
      exact Or.inl rfl
  · cases h

theorem Deletion.run_reworks (d : Deletion) (db : Database) :
    (d.run v db).db = db ∨ db.Reworked (d.run v db).db := by
  unfold run
  split
  · exact Or.inl rfl
  · rename_i t ht
    exact Or.inr ⟨_, t, _, t.lastId, ht, rfl⟩

end Rows

namespace Database

variable {db db' : Database} {t t' : Table} {k : ForeignKey} {n : String}

section Parents

theorem parentKey?_eq (db : Database) (k : ForeignKey) : db.parentKey? k =
    (db.find? k.parent).bind fun p => ((p.keyColumns? k).filter fun cs =>
      cs.length = k.columns.length && p.isKey cs).map (p, ·) := by
  -- however the columns are found, what is asked of them is the same
  have hkey : ∀ (p : Table) (cs : List Nat), (if cs.length ≠ k.columns.length then none
      else if cs.map some = [p.idColumn] then some (p, cs)
      else if p.indexes.any fun i => i.unique && i.columns.all cs.contains
          && cs.all i.columns.contains then some (p, cs)
      else none) = ((some cs).filter fun cs =>
        cs.length = k.columns.length && p.isKey cs).map (p, ·) := by
    intro p cs
    by_cases hlen : cs.length = k.columns.length
    · rw [if_neg (fun h => h hlen)]
      by_cases hid : cs.map some = [p.idColumn]
      · simp [Option.filter, Table.isKey, hlen, hid]
      · rw [if_neg hid]
        have hamong : p.isKey cs = p.indexes.any fun i =>
            i.unique && i.columns.all cs.contains && cs.all i.columns.contains := by
          rw [Table.isKey, decide_eq_false hid, Bool.false_or]
        rw [← hamong]
        cases hk : p.isKey cs <;> simp [Option.filter, hlen, hk]
    · simp [Option.filter, hlen]
  cases hp : db.find? k.parent with
  | none => simp [parentKey?, hp]
  | some p =>
    simp only [parentKey?, hp, Option.bind_eq_bind, Option.bind_some, Table.keyColumns?]
    split
    · cases hid : p.idColumn with
      | some i => simpa only [hid] using hkey p [i]
      | none =>
        by_cases hempty : p.primaryKey.isEmpty = true
        · simp [hempty]
        · simp only [if_neg hempty]
          simpa only [hid] using hkey p p.primaryKey
    · cases k.parentColumns.mapM p.columnIndex? with
      | none => rfl
      | some cs => exact hkey p cs

theorem parentKey?_eq_some_iff {p : Table} {columns : List Nat} :
    db.parentKey? k = some (p, columns) ↔ db.find? k.parent = some p ∧
      p.keyColumns? k = some columns ∧ columns.length = k.columns.length ∧ p.isKey columns = true := by
  simp only [parentKey?_eq, Option.bind_eq_some_iff, Option.map_eq_some_iff, Option.filter_eq_some_iff,
    Prod.mk.injEq, Bool.and_eq_true, decide_eq_true_eq]
  constructor
  · rintro ⟨q, hq, cs, ⟨hcs, hlen, hkey⟩, rfl, rfl⟩
    exact ⟨hq, hcs, hlen, hkey⟩
  · rintro ⟨hp, hcs, hlen, hkey⟩
    exact ⟨p, hp, columns, ⟨hcs, hlen, hkey⟩, rfl, rfl⟩

theorem parentKey?_of_grows {p p' q : Table} {columns : List Nat} (hp : db.find? k.parent = some p)
    (hp' : db'.find? k.parent = some p') (hg : p.Grows p')
    (h : db.parentKey? k = some (q, columns)) : q = p ∧ db'.parentKey? k = some (p', columns) := by
  obtain ⟨hq, hcols, hlen, hkey⟩ := parentKey?_eq_some_iff.mp h
  obtain rfl := Option.some.inj (hq.symm.trans hp)
  have hindex : p'.columnIndex? = q.columnIndex? := by
    funext n
    rw [Table.columnIndex?, hg.columns, Table.columnIndex?]
  refine ⟨rfl, parentKey?_eq_some_iff.mpr ⟨hp', ?_, hlen, ?_⟩⟩
  · rw [← hcols, Table.keyColumns?, hg.idColumn, hg.primaryKey, hindex, Table.keyColumns?]
  · simp only [Table.isKey, Bool.or_eq_true, hg.idColumn] at hkey ⊢
    exact hkey.imp_right fun h =>
      let ⟨i, hi, hall⟩ := List.any_eq_true.mp h
      List.any_eq_true.mpr ⟨i, hg.indexes hi, hall⟩

theorem hasParent_of_grows {r : TableRow}
    (hf : ∀ p, db.find? k.parent = some p → ∃ p', db'.find? k.parent = some p' ∧ p.Grows p')
    (h : db.hasParent t k r = true) : db'.hasParent t k r = true := by
  unfold hasParent at h ⊢
  extract_lets at h ⊢
  split at h
  · rename_i hnull
    rw [if_pos hnull]
  · rename_i hnull
    rw [if_neg hnull]
    split at h
    · cases h
    · rename_i p columns hkey
      cases hp : db.find? k.parent with
      | none => simp [parentKey?, hp] at hkey
      | some q =>
        obtain ⟨p', hp', hg⟩ := hf q hp
        obtain ⟨rfl, hkey'⟩ := parentKey?_of_grows hp hp' hg hkey
        obtain ⟨s, hs, hall⟩ := List.any_eq_true.mp h
        have hplace : ∀ c, (p'.placeAt c).affinity = (p.placeAt c).affinity := by
          intro c
          rw [Table.placeAt, hg.idColumn, hg.columns, Table.placeAt]
        have hcell : ∀ c, p'.cell s c = p.cell s c := by
          intro c
          rw [Table.cell, hg.idColumn, Table.cell]
        rw [hkey']
        refine List.any_eq_true.mpr ⟨s, hg.rows hs, ?_⟩
        simpa only [hplace, hcell] using hall

theorem hasParent_update {u : Table} {r : TableRow} (ht : db.find? t'.name = some t)
    (hg : t.Grows t') (h : db.hasParent u k r = true) : (db.update t').hasParent u k r = true := by
  refine hasParent_of_grows (fun p hp => ?_) h
  cases hn : sameName p.name t'.name with
  | true =>
    have hpt : p = t := by
      rw [← find?_congr (sameName_of_find? hp), find?_congr hn, ht] at hp
      exact (Option.some.inj hp).symm
    exact ⟨t', by simp [find?_update, hp, hn], hpt ▸ hg⟩
  | false => exact ⟨p, by simp [find?_update, hp, hn], Table.Grows.refl p⟩

theorem gapsOf_update (ht : db.find? t'.name = some t) (hg : t.Grows t') (u : Table) :
    ((db.update t').gapsOf u).Sublist (db.gapsOf u) := by
  refine List.Sublist.flatMap_right _ fun k _ => (List.monotone_filter_right _ fun r hr => ?_).map _
  cases hparent : db.hasParent u k r with
  | false => rfl
  | true => simp [hasParent_update ht hg hparent] at hr

/-- Where a table without foreign keys grows, no row comes to lack a parent. -/
theorem keepsKeys_update (ht : db.find? t'.name = some t) (hg : t.Grows t')
    (hkeys : t'.foreignKeys = []) : db.keepsKeys (db.update t') = true := by
  have hupdate : (db.update t').flatMap (db.update t').gapsOf = db.flatMap fun u =>
      (db.update t').gapsOf (if sameName u.name t'.name then t' else u) := List.flatMap_map ..
  have hgaps : (db.update t').gaps.Sublist db.gaps := by
    rw [gaps, hupdate]
    refine List.Sublist.flatMap_right db fun u _ => ?_
    split
    · simp [gapsOf, hkeys]
    · exact gapsOf_update ht hg u
  exact List.all_eq_true.mpr fun g _ => decide_eq_true (hgaps.count_le g)

end Parents

section Names

def NamesApart (db : Database) : Prop :=
  ∀ t ∈ db, ∀ u ∈ db, ∀ i ∈ u.indexes, ∀ m, i.name = some m → sameName t.name m = false

theorem sameName_of_find?_eq_none (h : db.find? n = none) (ht : t ∈ db) : sameName t.name n = false :=
  Bool.eq_false_iff.mpr (List.find?_eq_none.mp h t ht)

theorem namesApart_of_names (h : db.NamesApart) (hnames : ∀ t ∈ db', ∃ u ∈ db, u.name = t.name)
    (hindexes : ∀ t ∈ db', ∀ i ∈ t.indexes,
      (∃ u ∈ db, i ∈ u.indexes) ∨ ∃ m, i.name = some m ∧ db.find? m = none) : db'.NamesApart := by
  intro t ht u hu i hi m hm
  obtain ⟨t₀, ht₀, hname⟩ := hnames t ht
  rw [← hname]
  rcases hindexes u hu i hi with ⟨u₀, hu₀, hi₀⟩ | ⟨m', hm', hfree⟩
  · exact h t₀ ht₀ u₀ hu₀ i hi₀ m hm
  · obtain rfl := Option.some.inj (hm'.symm.trans hm)
    exact sameName_of_find?_eq_none hfree ht₀

theorem namesApart_update (h : db.NamesApart) (ht : t ∈ db) (hname : t'.name = t.name)
    (hindexes : ∀ i ∈ t'.indexes, i ∈ t.indexes ∨ ∃ m, i.name = some m ∧ db.find? m = none) :
    (db.update t').NamesApart := by
  refine namesApart_of_names h (fun u hu => ?_) (fun u hu i hi => ?_)
  · rcases mem_update hu with rfl | ⟨hu, -⟩
    · exact ⟨t, ht, hname.symm⟩
    · exact ⟨u, hu, rfl⟩
  · rcases mem_update hu with rfl | ⟨hu, -⟩
    · exact (hindexes i hi).imp_left fun hi => ⟨t, ht, hi⟩
    · exact Or.inl ⟨u, hu, hi⟩

theorem namesApart_add (h : db.NamesApart) (hfree : db.hasName t.name = false)
    (hindexes : ∀ i ∈ t.indexes, i.name = none) : (db.add t).NamesApart := by
  intro u hu w hw i hi m hm
  rcases List.mem_append.mp hw with hold | hnew
  · rcases List.mem_append.mp hu with hu | hu
    · exact h u hu w hold i hi m hm
    · rw [List.mem_singleton.mp hu]
      have hnone := List.any_eq_false.mp hfree w hold
      simp only [Bool.or_eq_true, not_or, List.any_eq_true, not_exists, not_and] at hnone
      simpa [hm] using hnone.2 i hi
  · rw [List.mem_singleton.mp hnew] at hi
    rw [hindexes i hi] at hm
    cases hm

theorem foldlM_keeps {ε α β : Type} {P : β → Prop} {f : β → α → Except ε β}
    (hf : ∀ b a b', P b → f b a = .ok b' → P b') {l : List α} {b b' : β} (h : P b)
    (hl : l.foldlM f b = .ok b') : P b' := by
  induction l generalizing b with
  | nil => exact Except.ok.inj hl ▸ h
  | cons a l ih =>
    rw [List.foldlM_cons] at hl
    obtain ⟨c, hc, hl⟩ := bind_eq_ok hl
    exact ih (hf b a c h hc) hl

def Unnamed (indexes : List Index) : Prop := ∀ i ∈ indexes, i.name = none

theorem unnamed_addUnique {indexes : List Index} (h : Unnamed indexes) (columns : List Nat) :
    Unnamed (addUnique indexes columns) := by
  unfold addUnique
  split
  · exact h
  · intro i hi
    rcases List.mem_append.mp hi with hi | hi
    · exact h i hi
    · rw [List.mem_singleton.mp hi]

theorem unnamed_indexesOf {d : TableDef} {key : List Nat} {indexes : List Index}
    (h : indexesOf t d key = .ok indexes) : Unnamed indexes := by
  unfold indexesOf at h
  extract_lets own whole at h
  have hown : Unnamed own := by
    refine List.foldlRecOn (motive := Unnamed) _ _ (by simp [Unnamed]) ?_
    intro indexes h c _
    simp only
    split <;> split <;> simp only [h, unnamed_addUnique]
  have hwhole : Unnamed whole := by
    unfold whole
    split
    · exact hown
    · exact unnamed_addUnique hown _
  refine foldlM_keeps (fun b names b' hb hstep => ?_) hwhole h
  obtain ⟨columns, -, hstep⟩ := bind_eq_ok hstep
  exact Except.ok.inj hstep ▸ unnamed_addUnique hb columns

theorem namesApart_kept : Kept NamesApart where
  nil := fun t ht => by cases ht
  perform := by
    intro db st a h ha v
    have hreworked : ∀ {db db' : Database}, db.NamesApart → db.Reworked db' → db'.NamesApart := by
      rintro db _ h ⟨n, t, rows, lastId, ht, rfl⟩
      exact namesApart_update h (List.mem_of_find?_eq_some ht) rfl fun i hi => Or.inl hi
    cases a with
    | empty => exact fun db hdb => by cases hdb
    | nothing | begin | commit | rollback => exact h
    | createTable t =>
      obtain ⟨d, ht, hfree⟩ := resolve_eq_createTable ha
      obtain ⟨hname, t₀, key, hindexes⟩ := resolveTable_eq_ok ht
      exact namesApart_add h (hname ▸ hfree) (unnamed_indexesOf hindexes)
    | createIndex table i =>
      apply Action.leaves_createIndex
      intro t ht
      obtain ⟨m, hm, hfree⟩ := resolve_eq_createIndex ha
      refine namesApart_update h (List.mem_of_find?_eq_some ht) rfl fun j hj => ?_
      rcases List.mem_append.mp hj with hj | hj
      · exact Or.inl hj
      · rw [List.mem_singleton.mp hj]
        exact Or.inr ⟨m, hm, hfree⟩
    | dropTable name =>
      apply Outcome.leaves_ofExcept
      intro e he
      rw [db_dropTable he]
      intro t ht u hu
      exact h t (List.mem_filter.mp ht).1 u (List.mem_filter.mp hu).1
    | insert i =>
      exact Outcome.leaves_ofProgress db
        (Progress.each_invariant (fun p x p' hp hs => hreworked hp (i.step_reworks hs)) h i.rows) _
    | update a =>
      refine Outcome.leaves_ofProgress db (Progress.each_invariant (fun p x p' hp hs => ?_) h _) _
      rcases a.step_reworks hs with hsame | hre
      · rwa [hsame]
      · exact hreworked hp hre
    | delete d =>
      refine Outcome.leaves_ofProgress db ?_ none
      rcases d.run_reworks db with hsame | hre
      · rwa [hsame]
      · exact hreworked h hre
    | select r => exact Action.leaves_select h r

end Names

end Database

end EndpointGate.Sql
