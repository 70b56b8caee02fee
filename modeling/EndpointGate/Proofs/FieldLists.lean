import EndpointGate.Proofs.ReadObjects
import EndpointGate.Proofs.SchemaNames
import Mathlib.Data.List.Perm.Subperm

/-! Objects put together from named values. Of values with one name the last is kept, so that an object has as
many members as there were values only if no name was repeated. -/

namespace EndpointGate.Fields

variable {α : Type} {pairs : List (String × α)} {key : String}

theorem ofList_append (pairs : List (String × α)) (p : String × α) :
    ofList (pairs ++ [p]) = insert p.1 p.2 (ofList pairs) := by
  rw [ofList, List.foldl_append]
  rfl

theorem ordered_ofList (pairs : List (String × α)) : (ofList pairs).Ordered := by
  induction pairs using List.reverseRecOn with
  | nil => exact List.Pairwise.nil
  | append_singleton pairs p ih =>
    rw [ofList_append]
    exact ordered_insert ih p.1 p.2

theorem get?_ofList (key : String) (pairs : List (String × α)) :
    (ofList pairs).get? key = ((pairs.filter (·.1 == key)).getLast?).map (·.2) := by
  induction pairs using List.reverseRecOn with
  | nil => rfl
  | append_singleton pairs p ih =>
    rw [ofList_append, get?_insert, ih, List.filter_append]
    by_cases hkey : p.1 = key
    · have hlast : [p].filter (·.1 == key) = [p] := List.filter_cons_of_pos (by simp [hkey])
      rw [if_pos hkey, hlast, List.getLast?_concat]
      rfl
    · have hnone : [p].filter (·.1 == key) = [] := List.filter_cons_of_neg (by simp [hkey])
      rw [if_neg hkey, hnone, List.append_nil]

theorem get?_ofList_of_last {before after : List (String × α)} {p : String × α}
    (h : p.1 ∉ after.map (·.1)) : (ofList (before ++ p :: after)).get? p.1 = some p.2 := by
  induction after using List.reverseRecOn with
  | nil => rw [ofList_append, get?_insert, if_pos rfl]
  | append_singleton after q ih =>
    rw [List.map_append, List.mem_append, not_or] at h
    have hne : q.1 ≠ p.1 := fun heq => h.2 (List.mem_singleton.mpr heq.symm)
    rw [← List.cons_append, ← List.append_assoc, ofList_append, get?_insert, if_neg hne, ih h.1]

theorem get?_ofList_of_mem {p : String × α} (hnames : (pairs.map (·.1)).Nodup) (hp : p ∈ pairs) :
    (ofList pairs).get? p.1 = some p.2 := by
  obtain ⟨before, after, rfl⟩ := List.append_of_mem hp
  rw [List.map_append, List.map_cons] at hnames
  exact get?_ofList_of_last (List.nodup_cons.mp (List.nodup_append.mp hnames).2.1).1

theorem mem_keys_ofList : key ∈ (ofList pairs).keys ↔ key ∈ pairs.map (·.1) := by
  induction pairs using List.reverseRecOn with
  | nil => exact Iff.rfl
  | append_singleton pairs p ih =>
    rw [ofList_append, mem_keys_insert, ih, List.map_append, List.mem_append, List.map_singleton,
      List.mem_singleton]
    exact or_comm.trans (or_congr_right eq_comm)

theorem Ordered.nodup_keys {fields : Fields α} (h : fields.Ordered) : fields.keys.Nodup := by
  rw [keys, List.Nodup, List.pairwise_map]
  refine h.imp fun {a b} hlt heq => ?_
  rw [heq] at hlt
  exact String.lt_irrefl _ hlt

theorem length_ofList_eq_iff : (ofList pairs).length = pairs.length ↔ (pairs.map (·.1)).Nodup := by
  have hnodup := (ordered_ofList pairs).nodup_keys
  have hkeys : (ofList pairs).keys.length = (ofList pairs).length := List.length_map ..
  constructor
  · intro hlength
    have hsub : (ofList pairs).keys.Subperm (pairs.map (·.1)) :=
      List.subperm_of_subset hnodup fun key h => mem_keys_ofList.mp h
    have hperm := hsub.perm_of_length_le (by simp [hkeys, hlength])
    exact hperm.nodup_iff.mp hnodup
  · intro hnames
    have hperm := (List.perm_ext_iff_of_nodup hnodup hnames).mpr fun key => mem_keys_ofList
    rw [← hkeys, hperm.length_eq, List.length_map]

end EndpointGate.Fields
