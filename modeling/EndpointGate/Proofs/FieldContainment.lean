import EndpointGate.Proofs.InvocationPipeline
import Mathlib.Data.List.Forall2

/-! The check of rows against configured field names. Of names alike in lower case the descriptor keeps
the first, which drops no requirement, as each stands for all of its spellings. The first row that lacks
a name decides, and what it lacks is told in the spelling and order of the configuration. -/

namespace EndpointGate

def NewAt (fields : List String) (p : String × Nat) : Prop :=
  ∀ g ∈ fields.take p.2, Text.lowercase g ≠ Text.lowercase p.1

instance (fields : List String) (p : String × Nat) : Decidable (NewAt fields p) :=
  inferInstanceAs (Decidable (∀ g ∈ fields.take p.2, _))

def firstSpellings (fields : List String) : List String :=
  (fields.zipIdx.filter fun p => NewAt fields p).map Prod.fst

def Batch.CarryAlike (fields : List String) (b b' : Batch) : Prop :=
  List.Forall₂ (fun row row' => ∀ f ∈ fields, Carries row f ↔ Carries row' f) b.rows b'.rows

namespace Descriptor

variable {d : Descriptor} {fields : List String} {rows rows' : List Row}

theorem dropRepeats_eq (seen fields : List String) :
    dropRepeats seen fields = (fields.zipIdx.filter fun p =>
      Text.lowercase p.1 ∉ seen ∧ NewAt fields p).map Prod.fst := by
  induction fields generalizing seen with
  | nil => rfl
  | cons f fields ih =>
    have hnew : NewAt (f :: fields) (f, 0) := by simp [NewAt]
    have hbehind : ∀ p : String × Nat, NewAt (f :: fields) (p.1, p.2 + 1) ↔
        Text.lowercase f ≠ Text.lowercase p.1 ∧ NewAt fields p := by
      simp [NewAt]
    have hlater : ((fields.zipIdx 1).filter fun p =>
        Text.lowercase p.1 ∉ seen ∧ NewAt (f :: fields) p).map Prod.fst =
        dropRepeats (Text.lowercase f :: seen) fields := by
      rw [ih, List.zipIdx_succ, List.filter_map, List.map_map]
      congr 1
      refine List.filter_congr fun p _ => ?_
      simp only [Function.comp_apply, hbehind, List.mem_cons, not_or, decide_eq_decide, ne_comm]
      tauto
    rw [List.zipIdx_cons, List.filter_cons, dropRepeats]
    by_cases hf : Text.lowercase f ∈ seen
    · -- what is alike to `f` has been seen before, so that `f` leaves nothing out
      have hsame : dropRepeats (Text.lowercase f :: seen) fields = dropRepeats seen fields := by
        rw [ih, ih]
        congr 1
        refine List.filter_congr fun p _ => decide_eq_decide.mpr (and_congr_left' (not_congr ?_))
        exact List.mem_cons.trans (or_iff_right_of_imp fun he => he ▸ hf)
      rw [if_pos (by simpa using hf), if_neg (by simp [hf]), hlater, hsame]
    · rw [if_neg (by simpa using hf), if_pos (by simp [hf, hnew]), List.map_cons, hlater]

theorem not_mem_of_mem_dropRepeats {seen : List String} {f : String}
    (hf : f ∈ dropRepeats seen fields) : Text.lowercase f ∉ seen := by
  rw [dropRepeats_eq] at hf
  obtain ⟨p, hp, rfl⟩ := List.mem_map.mp hf
  exact (of_decide_eq_true (List.mem_filter.mp hp).2).1

theorem nodup_dropRepeats (seen fields : List String) :
    ((dropRepeats seen fields).map Text.lowercase).Nodup := by
  induction fields generalizing seen with
  | nil => exact List.nodup_nil
  | cons f fields ih =>
    rw [dropRepeats]
    split_ifs
    · exact ih seen
    · refine List.nodup_cons.mpr ⟨fun hmem => ?_, ih _⟩
      obtain ⟨g, hg, he⟩ := List.mem_map.mp hmem
      exact not_mem_of_mem_dropRepeats hg (List.mem_cons.mpr (Or.inl he))

theorem fields_ofFields (fields : List String) : (ofFields fields).fields = firstSpellings fields := by
  simp [ofFields, dropRepeats_eq, firstSpellings]

theorem lacking_ofFields_eq_nil_iff (fields : List String) (row : Row) :
    (ofFields fields).lacking row = [] ↔ ∀ f ∈ fields, Carries row f := by
  rw [← missingFrom_eq_lacking, missingFrom_eq_nil_iff, carries_ofFields_iff]

theorem lacking_congr {row row' : Row} (h : ∀ f ∈ d.fields, Carries row f ↔ Carries row' f) :
    d.lacking row = d.lacking row' :=
  List.filter_congr fun f hf => decide_eq_decide.mpr (not_congr (h f hf))

theorem checkRows_congr (h : List.Forall₂ (fun row row' => d.lacking row = d.lacking row') rows rows')
    (n : Nat) : d.checkRows n rows = d.checkRows n rows' := by
  induction h generalizing n with
  | nil => rfl
  | cons hrow _ ih => simp only [checkRows, missingFrom_eq_lacking, hrow, ih]

theorem checkRows_cases (d : Descriptor) (rows : List Row) :
    d.checkRows 0 rows = .ok () ∨
      ∃ i row, rows[i]? = some row ∧ (∀ before ∈ rows.take i, d.lacking before = []) ∧
        d.lacking row ≠ [] ∧ d.checkRows 0 rows = .error (.missingFields (i + 1) (d.lacking row)) := by
  rw [checkRows_eq_firstLacking, firstLacking?]
  cases hfind : rows.zipIdx.find? fun p => d.lacking p.1 ≠ [] with
  | none => exact Or.inl rfl
  | some p =>
    obtain ⟨hlacks, i, hi, hp, hbefore⟩ := List.find?_eq_some_iff_getElem.mp hfind
    rw [List.getElem_zipIdx, Nat.zero_add] at hp
    have hi' : i < rows.length := by simpa using hi
    subst hp
    refine Or.inr ⟨i, rows[i], List.getElem?_eq_getElem hi', fun before hmem => ?_,
      of_decide_eq_true hlacks, rfl⟩
    obtain ⟨j, hj, rfl⟩ := List.mem_iff_getElem.mp hmem
    have hj' : j < i := Nat.lt_of_lt_of_le hj (List.length_take_le ..)
    simpa [hj'] using hbefore j hj'

end Descriptor

/-- The check is containment of names in lower case: a batch is accepted just if every row has every
configured name under some spelling. Otherwise the first row that has not is told, counted from one,
with the names that it lacks, each once, in the spelling that comes first and in the order of the
configuration. Values and other fields do not come into it. Without a descriptor nothing is accepted. -/
theorem validate_eq_containment (fields : List String) (endpoint : String) (b : Batch) :
    (validate endpoint (some (.ofFields fields)) b = .ok () ↔
      ∀ row ∈ b.rows, ∀ f ∈ fields, Carries row f) ∧
    (validate endpoint (some (.ofFields fields)) b = .ok () ∨ ∃ i row missing,
      b.rows[i]? = some row ∧ (∀ before ∈ b.rows.take i, ∀ f ∈ fields, Carries before f) ∧
      (∃ f ∈ fields, ¬Carries row f) ∧ missing ≠ [] ∧ (missing.map Text.lowercase).Nodup ∧
      missing = (firstSpellings fields).filter (fun f => ¬Carries row f) ∧
      validate endpoint (some (.ofFields fields)) b = .error (.missingFields (i + 1) missing)) ∧
    (∀ b' : Batch, b.CarryAlike fields b' →
      validate endpoint (some (.ofFields fields)) b' =
        validate endpoint (some (.ofFields fields)) b) ∧
    validate endpoint none b = .error (.unknownDescriptor endpoint) := by
  have hcontained := Descriptor.lacking_ofFields_eq_nil_iff fields
  refine ⟨?_, ?_, fun b' halike => ?_, rfl⟩
  · simp only [validate, Descriptor.checkRows_ok_iff, ← Descriptor.missingFrom_eq_nil_iff,
      Descriptor.missingFrom_eq_lacking, hcontained]
  · refine (Descriptor.checkRows_cases (.ofFields fields) b.rows).imp_right ?_
    rintro ⟨i, row, hrow, hbefore, hlacks, herror⟩
    refine ⟨i, row, _, hrow, fun before hmem => (hcontained before).mp (hbefore before hmem), ?_,
      hlacks, ?_, ?_, herror⟩
    · simpa using mt (hcontained row).mpr hlacks
    · exact (Descriptor.nodup_dropRepeats [] fields).sublist (List.filter_sublist.map _)
    · rw [Descriptor.lacking, Descriptor.fields_ofFields]
  · refine (Descriptor.checkRows_congr (halike.imp fun row row' hcarry => ?_) 0).symm
    exact Descriptor.lacking_congr fun f hf => hcarry f (Descriptor.dropRepeats_subset fields [] f hf)

end EndpointGate
