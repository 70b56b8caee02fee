import EndpointGate.Sql.Table

/-! Tables by their names, before and after one of them has been replaced or dropped. -/

namespace EndpointGate.Sql

@[simp] theorem sameName_self (a : String) : sameName a a = true := by
  simp [sameName]

theorem sameName_comm (a b : String) : sameName a b = sameName b a := by
  simp only [sameName, Bool.beq_comm]

theorem sameName_congr {a b : String} (h : sameName a b = true) (c : String) :
    sameName a c = sameName b c := by
  simp only [sameName, beq_iff_eq] at h ⊢
  rw [h]

namespace Database

variable {db : Database} {t t' : Table} {n : String}

theorem mem_update {u : Table} (h : u ∈ db.update t) :
    u = t ∨ u ∈ db ∧ sameName u.name t.name = false := by
  obtain ⟨w, hw, rfl⟩ := List.mem_map.mp h
  split
  · exact Or.inl rfl
  · rename_i hn
    exact Or.inr ⟨hw, Bool.eq_false_iff.mpr hn⟩

theorem find?_congr {m : String} (h : sameName m n = true) : db.find? m = db.find? n := by
  simp only [find?, sameName_comm _ m, sameName_comm _ n, sameName_congr h]

theorem sameName_of_find? (h : db.find? n = some t) : sameName t.name n = true :=
  List.find?_some (p := fun u : Table => sameName u.name n) h

theorem find?_own_name (h : db.find? n = some t) : db.find? t.name = some t :=
  (find?_congr (sameName_of_find? h)).trans h

theorem find?_update (db : Database) (t : Table) (n : String) : (db.update t).find? n =
    (db.find? n).map fun u => if sameName u.name t.name then t else u := by
  have hname : ((fun u : Table => sameName u.name n) ∘ fun u =>
      if sameName u.name t.name then t else u) = fun u => sameName u.name n := by
    funext u
    simp only [Function.comp_apply]
    split
    · rename_i h
      exact (sameName_congr h n).symm
    · rfl
  rw [find?, update, List.find?_map, hname]
  rfl

theorem find?_update_own (ht : db.find? t'.name = some t) : (db.update t').find? t'.name = some t' := by
  simp [find?_update, ht, sameName_of_find? ht]

end Database

end EndpointGate.Sql
