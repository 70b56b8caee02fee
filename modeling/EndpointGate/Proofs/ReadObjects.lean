import EndpointGate.Config.Load
import EndpointGate.Proofs.Transaction
import Mathlib.Tactic.SplitIfs

/-! Objects that have been read. The names in one are ascending, each once, and each member of a record
was read under the shape of that member. -/

namespace EndpointGate

namespace Fields

variable {α : Type}

theorem lt_of_not_lt {a b : String} (hne : a ≠ b) (h : ¬a < b) : b < a :=
  Decidable.not_not.mp fun hba => hne (String.le_antisymm hba h)

theorem mem_insert {key : String} {value : α} {fields : Fields α} {p : String × α}
    (hp : p ∈ insert key value fields) : p = (key, value) ∨ p ∈ fields := by
  induction fields with
  | nil => exact .inl (List.mem_singleton.mp hp)
  | cons q rest ih =>
    rw [insert] at hp
    split_ifs at hp with hsame hbefore
    · exact (List.mem_cons.mp hp).imp_right (List.mem_cons_of_mem q)
    · exact List.mem_cons.mp hp
    · obtain rfl | hp := List.mem_cons.mp hp
      · exact .inr List.mem_cons_self
      · exact (ih hp).imp_right (List.mem_cons_of_mem q)

theorem ordered_insert {fields : Fields α} (h : fields.Ordered) (key : String) (value : α) :
    (insert key value fields).Ordered := by
  induction fields with
  | nil => exact List.pairwise_singleton _ _
  | cons p rest ih =>
    obtain ⟨hfirst, hrest⟩ := List.pairwise_cons.mp h
    rw [insert]
    split_ifs with hsame hbefore
    · exact List.pairwise_cons.mpr ⟨hsame ▸ hfirst, hrest⟩
    · refine List.pairwise_cons.mpr ⟨fun q hq => ?_, h⟩
      obtain rfl | hq := List.mem_cons.mp hq
      · exact hbefore
      · exact String.lt_trans hbefore (hfirst q hq)
    · refine List.pairwise_cons.mpr ⟨fun q hq => ?_, ih hrest⟩
      obtain rfl | hq := mem_insert hq
      · exact lt_of_not_lt hsame hbefore
      · exact hfirst q hq

end Fields

namespace Json

open Sql (bind_eq_ok)

theorem ordered_of_readEntriesFrom {item : Shape} {fuel depth : Nat} {first : Bool}
    {done : Fields Json} {c c' : Cursor} {v : Json} (hdone : done.Ordered)
    (h : readEntriesFrom fuel depth item first done c = .ok (v, c')) :
    ∃ fields : Fields Json, v = .obj fields ∧ fields.Ordered := by
  induction fuel generalizing first done c with
  | zero => simp [readEntriesFrom] at h
  | succ fuel ih =>
    rw [readEntriesFrom] at h
    split at h
    · cases h
    · cases h
      exact ⟨done, rfl, hdone⟩
    · split at h
      · cases h
      · split at h
        · cases h
        · exact ih (Fields.ordered_insert hdone _ _) h

theorem accept_of_ok {shape : Shape} {value v : Json} {after c' : Cursor}
    (h : (match shape.accept value with
      | .ok v => pure (v, after)
      | .error fault => throw { fault, pos := after.pos } : Except ReadError (Json × Cursor)) =
        .ok (v, c')) : shape.accept value = .ok v := by
  cases ha : shape.accept value with
  | error fault =>
    rw [ha] at h
    cases h
  | ok v' =>
    rw [ha] at h
    cases h
    rfl

theorem accept_of_readScalar {shape : Shape} {fuel : Nat} {c c' : Cursor} {v : Json}
    (h : readScalar fuel shape c = .ok (v, c')) : ∃ value, shape.accept value = .ok v := by
  unfold readScalar at h
  cases hl : lead c with
  | word rest value =>
    simp only [hl] at h
    obtain ⟨_, -, h⟩ := bind_eq_ok h
    exact ⟨value, accept_of_ok h⟩
  | number negative =>
    cases negative <;>
    · simp only [hl] at h
      obtain ⟨⟨value, after⟩, -, h⟩ := bind_eq_ok h
      exact ⟨value, accept_of_ok h⟩
  | string =>
    simp only [hl] at h
    obtain ⟨⟨s, after⟩, -, h⟩ := bind_eq_ok h
    exact ⟨.str s, accept_of_ok h⟩
  | _ =>
    simp only [hl] at h
    cases h

theorem readScalar_ne_ok {shape : Shape} (h : ∀ value v, shape.accept value ≠ .ok v) (fuel : Nat)
    (c : Cursor) (p : Json × Cursor) : readScalar fuel shape c ≠ .ok p := by
  intro hread
  obtain ⟨value, haccept⟩ := accept_of_readScalar hread
  exact h value p.1 haccept

theorem ordered_of_readDict {item : Shape} {fuel depth : Nat} {c c' : Cursor} {v : Json}
    (h : readShape fuel depth (.dict item) c = .ok (v, c')) :
    ∃ fields : Fields Json, v = .obj fields ∧ fields.Ordered := by
  have hscalar : ∀ value w, (Shape.dict item).accept value ≠ .ok w := by
    intro value w ha
    cases value <;> cases ha
  cases fuel with
  | zero => simp [readShape] at h
  | succ fuel =>
    unfold readShape at h
    dsimp only at h
    split at h
    · cases h
    · cases hl : lead c.skipSpace with
      | object =>
        simp only [hl] at h
        cases fuel with
        | zero => simp [readEntries] at h
        | succ fuel =>
          rw [readEntries] at h
          split at h
          · cases h
          · exact ordered_of_readEntriesFrom List.Pairwise.nil h
      | list =>
        simp only [hl] at h
        cases h
      | _ =>
        simp only [hl] at h
        exact absurd h (readScalar_ne_ok hscalar _ _ _)

section Record

def Satisfied (P : String → Json → Prop) (fields : Fields Json) : Prop :=
  ∀ name v, fields.get? name = some v → P name v

def Establishes (P : String → Json → Prop) (members : List (Member × Shape)) : Prop :=
  ∀ m ∈ members, ∀ fuel depth c v c',
    readShape fuel depth m.2 c = .ok (v, c') → P m.1.name v

variable {P : String → Json → Prop} {members : List (Member × Shape)}

theorem satisfied_nil : Satisfied P [] := fun name v hv => by cases hv

theorem satisfied_insert {fields : Fields Json} (h : Satisfied P fields) {key : String}
    {value : Json} (hvalue : P key value) : Satisfied P (fields.insert key value) := by
  intro name v hv
  rw [Fields.get?_insert] at hv
  split at hv
  · rename_i hsame
    cases hv
    exact hsame ▸ hvalue
  · exact h name v hv

theorem satisfied_assemble {values : Fields Json} (h : Satisfied P values) :
    ∃ fields : Fields Json, assemble members values = .obj fields ∧ Satisfied P fields := by
  refine ⟨_, rfl, fun name v hv => h name v ?_⟩
  induction members with
  | nil => cases hv
  | cons m members ih =>
    cases hm : values.get? m.1.name with
    | none =>
      simp only [List.filterMap_cons, hm, Option.map_none] at hv
      exact ih hv
    | some w =>
      simp only [List.filterMap_cons, hm, Option.map_some, Fields.get?] at hv
      split at hv
      · rename_i hsame
        rw [← hsame, hm, hv]
      · exact ih hv

theorem satisfied_of_readMembersFrom (hread : Establishes P members) {fuel depth : Nat}
    {first : Bool} {done : Fields Json} {c c' : Cursor} {v : Json} (hdone : Satisfied P done)
    (h : readMembersFrom fuel depth members first done c = .ok (v, c')) :
    ∃ fields : Fields Json, v = .obj fields ∧ Satisfied P fields := by
  induction fuel generalizing first done c with
  | zero => simp [readMembersFrom] at h
  | succ fuel ih =>
    rw [readMembersFrom] at h
    split at h
    · cases h
    · split at h
      · cases h
      · cases h
        exact satisfied_assemble hdone
    · split at h
      · -- a member that is not known is passed over
        split at h
        · cases h
        · split at h
          · cases h
          · exact ih hdone h
      · rename_i m hm
        have hmem := List.mem_of_find?_eq_some hm
        split at h
        · cases h
        · split at h
          · cases h
          · split at h
            · cases h
            · rename_i hv
              exact ih (satisfied_insert hdone (hread m hmem _ _ _ _ _ hv)) h

theorem satisfied_of_readPositionsFrom (hread : Establishes P members) {wanted : String}
    {fuel depth index : Nat} {done values : Fields Json} {c c' : Cursor} (hdone : Satisfied P done)
    (h : readPositionsFrom fuel depth wanted index members done c = .ok (values, c')) :
    Satisfied P values := by
  induction members generalizing fuel index done c with
  | nil =>
    cases fuel with
    | zero => simp [readPositionsFrom] at h
    | succ fuel =>
      simp only [readPositionsFrom] at h
      cases h
      exact hdone
  | cons m rest ih =>
    obtain ⟨hm, hrest⟩ := List.forall_mem_cons.mp hread
    cases fuel with
    | zero => simp [readPositionsFrom] at h
    | succ fuel =>
      rw [readPositionsFrom] at h
      split at h
      · cases h
      · split at h
        · cases h
        · exact ih hrest hdone h
      · split at h
        · cases h
        · rename_i hv
          exact ih hrest (satisfied_insert hdone (hm _ _ _ _ _ hv)) h

theorem satisfied_of_readRecord (hread : Establishes P members) {name : String} {fuel depth : Nat}
    {c c' : Cursor} {v : Json} (h : readShape fuel depth (.record name members) c = .ok (v, c')) :
    ∃ fields : Fields Json, v = .obj fields ∧ Satisfied P fields := by
  have hscalar : ∀ value w, (Shape.record name members).accept value ≠ .ok w := by
    intro value w ha
    cases value <;> cases ha
  cases fuel with
  | zero => simp [readShape] at h
  | succ fuel =>
    unfold readShape at h
    dsimp only at h
    split at h
    · cases h
    · cases hl : lead c.skipSpace with
      | object =>
        simp only [hl] at h
        cases fuel with
        | zero => simp [readMembers] at h
        | succ fuel =>
          rw [readMembers] at h
          split at h
          · cases h
          · exact satisfied_of_readMembersFrom hread satisfied_nil h
      | list =>
        simp only [hl] at h
        cases fuel with
        | zero => simp [readPositions] at h
        | succ fuel =>
          rw [readPositions] at h
          split at h
          · cases h
          · obtain ⟨⟨values, after⟩, hvalues, h⟩ := bind_eq_ok h
            obtain ⟨last, -, h⟩ := bind_eq_ok h
            cases h
            exact satisfied_assemble (satisfied_of_readPositionsFrom hread satisfied_nil hvalues)
      | _ =>
        simp only [hl] at h
        exact absurd h (readScalar_ne_ok hscalar _ _ _)

end Record

theorem readShape_of_read {shape : Shape} {text : String} {j : Json} (h : read shape text = .ok j) :
    ∃ fuel depth c c', readShape fuel depth shape c = .ok (j, c') := by
  obtain ⟨⟨v, c⟩, hv, h⟩ := bind_eq_ok h
  by_cases hend : c.skipSpace.atEnd = true
  · simp only [hend, if_true] at h
    cases h
    exact ⟨_, _, _, _, hv⟩
  · simp only [hend] at h
    cases h

end Json

namespace Config

def SectionOrdered (name : String) (v : Json) : Prop :=
  name = "schemas" → ∃ entries : Fields Json, v = .obj entries ∧ entries.Ordered

theorem sections_of_read {fuel depth : Nat} {c c' : Json.Cursor} {v : Json}
    (h : Json.readShape fuel depth shape c = .ok (v, c')) :
    ∃ fields : Fields Json, v = .obj fields ∧ Json.Satisfied SectionOrdered fields := by
  refine Json.satisfied_of_readRecord ?_ h
  intro m hm fuel depth c v c' hv hname
  have hdict : m.2 = .dict (.list (.text "a string")) := by
    simp only [Http.Listener.members, List.cons_append, List.nil_append, List.mem_cons,
      List.not_mem_nil, or_false] at hm
    rcases hm with rfl | rfl | rfl | rfl | rfl | rfl | rfl | rfl | rfl | rfl | rfl <;>
      simp at hname ⊢
  rw [hdict] at hv
  exact Json.ordered_of_readDict hv

theorem ordered_of_parse {text : String} {c : Config} (h : parse text = .ok c) :
    c.schemas.Ordered := by
  unfold parse at h
  cases hj : Json.read shape text with
  | error e =>
    rw [hj] at h
    cases h
  | ok j =>
    rw [hj] at h
    cases h
    obtain ⟨fuel, depth, c, c', hr⟩ := Json.readShape_of_read hj
    obtain ⟨fields, rfl, hfields⟩ := sections_of_read hr
    simp only [ofJson, Json.get?, Json.asObj?, Option.bind_some]
    cases hs : Fields.get? "schemas" fields with
    | none => exact List.Pairwise.nil
    | some w =>
      obtain ⟨entries, rfl, hentries⟩ := hfields "schemas" w hs rfl
      exact List.pairwise_map.mpr hentries

theorem parse_of_load {d : Disk} {path : String} {c : Config} (h : load d path = .ok c) :
    (∃ text, parse text = .ok c) ∧ c.faults = [] := by
  obtain ⟨text, -, h⟩ := Sql.bind_eq_ok h
  obtain ⟨c', hc, h⟩ := Sql.bind_eq_ok h
  obtain ⟨_, hvalid, h⟩ := Sql.bind_eq_ok h
  cases h
  exact ⟨⟨text, hc⟩, faults_of_validate hvalid⟩

end Config

end EndpointGate
