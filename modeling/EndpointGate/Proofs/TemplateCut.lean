import EndpointGate.Template
import Mathlib.Tactic.SplitIfs

/-! A template is cut at its `$` signs. The pieces at odd places that have a `$` on both sides are its
placeholders, and everything else is text. The reader of templates, which goes through the source once
with a moving front, finds exactly these, whatever row is bound. -/

namespace EndpointGate.Template

def pieces (t : Template) : List (List Char) := t.source.toList.splitOn '$'

def dollars (t : Template) : Nat := t.source.toList.count '$'

def piece (t : Template) (i : Nat) : List Char := t.pieces.getD i []

def nameAt (t : Template) (i : Nat) : String := String.ofList (t.piece (2 * i + 1))

/-- Pieces in even places with something between each two of them; a `$` that nothing closes is text. -/
def weave (ps : List (List Char)) (fill : Nat → List Char) : List Char :=
  let k := ps.length - 1
  (List.range (k / 2)).flatMap (fun i => ps.getD (2 * i) [] ++ fill i) ++
    if k % 2 = 0 then ps.getD k [] else ps.getD (k - 1) [] ++ '$' :: ps.getD k []

def filled (t : Template) (fill : Nat → List Char) : List Char := weave t.pieces fill

def outline : List (List Char) → List Segment
  | [] => []
  | [a] => Segment.literal? a
  | [a, b] => Segment.literal? (a ++ '$' :: b)
  | a :: b :: c :: rest => Segment.literal? a ++ .placeholder b :: outline (c :: rest)

theorem pieces_length (cs : List Char) : (cs.splitOn '$').length = cs.count '$' + 1 := by
  induction cs with
  | nil => rfl
  | cons c cs ih =>
    rw [List.splitOn_cons_eq_if_modifyHead]
    by_cases hc : c = '$'
    · subst hc
      simp [ih]
    · simp [hc, ih]

theorem not_mem_of_mem_pieces {sep : Char} {cs p : List Char} (hp : p ∈ cs.splitOn sep) :
    sep ∉ p := by
  induction cs generalizing p with
  | nil =>
    have he : p = [] := by simpa using hp
    simp [he]
  | cons c cs ih =>
    rw [List.splitOn_cons_eq_if_modifyHead] at hp
    by_cases hc : c = sep
    · subst hc
      rcases List.mem_cons.mp (by simpa using hp) with he | hp
      · simp [he]
      · exact ih hp
    · obtain ⟨q, qs, hq⟩ := List.exists_cons_of_ne_nil (List.splitOn_ne_nil sep cs)
      simp only [beq_iff_eq, hc, if_false, hq, List.modifyHead_cons, List.mem_cons] at hp
      rw [hq] at ih
      rcases hp with he | hp
      · subst he
        have hn := ih List.mem_cons_self
        simp only [List.mem_cons, not_or]
        exact ⟨Ne.symm hc, hn⟩
      · exact ih (List.mem_cons_of_mem _ hp)

/-- The reader has the text and the name under way behind it; both belong to the head of what is left
to cut. -/
theorem segmentsFrom_eq_outline (cs : List Char) :
    (∀ before, segmentsFrom before none cs =
      outline ((cs.splitOn '$').modifyHead (before.reverse ++ ·))) ∧
    ∀ before name, segmentsFrom before (some name) cs =
      outline (before.reverse :: (cs.splitOn '$').modifyHead (name.reverse ++ ·)) := by
  induction cs with
  | nil => simp [segmentsFrom, outline]
  | cons c cs ih =>
    obtain ⟨q, qs, hq⟩ := List.exists_cons_of_ne_nil (List.splitOn_ne_nil '$' cs)
    simp only [hq, List.modifyHead_cons] at ih
    simp only [segmentsFrom, List.splitOn_cons_eq_if_modifyHead, hq, List.modifyHead_cons, beq_iff_eq]
    by_cases hc : c = '$'
    · subst hc
      simp only [if_true, List.modifyHead_cons, List.append_nil]
      refine ⟨fun before => ?_, fun before name => ?_⟩
      · rw [ih.2]
        rfl
      · rw [ih.1]
        rfl
    · simp only [hc, if_false, List.modifyHead_cons]
      refine ⟨fun before => ?_, fun before name => ?_⟩
      · rw [ih.1]
        simp
      · rw [ih.2]
        simp

theorem plan_eq_outline (t : Template) : t.plan = outline t.pieces := by
  obtain ⟨q, qs, hq⟩ := List.exists_cons_of_ne_nil (List.splitOn_ne_nil '$' t.source.toList)
  have h := (segmentsFrom_eq_outline t.source.toList).1 []
  rw [hq] at h
  simpa [plan, pieces, hq] using h

@[simp] theorem weave_one (a : List Char) (fill : Nat → List Char) : weave [a] fill = a := by
  simp [weave]

@[simp] theorem weave_two (a b : List Char) (fill : Nat → List Char) :
    weave [a, b] fill = a ++ '$' :: b := by
  simp [weave]

theorem weave_cons (a b c : List Char) (rest : List (List Char)) (fill : Nat → List Char) :
    weave (a :: b :: c :: rest) fill =
      a ++ fill 0 ++ weave (c :: rest) (fun i => fill (i + 1)) := by
  have hk : (a :: b :: c :: rest).length - 1 = (c :: rest).length - 1 + 2 := by
    simp only [List.length_cons]
    omega
  have hlast : ∀ i, (a :: b :: c :: rest).getD (i + 2) [] = (c :: rest).getD i [] := fun _ => rfl
  have hprev : ∀ i, i % 2 = 1 →
      (a :: b :: c :: rest).getD (i + 2 - 1) [] = (c :: rest).getD (i - 1) [] := by
    intro i hi
    obtain ⟨j, rfl⟩ : ∃ j, i = j + 1 := ⟨i - 1, by omega⟩
    rfl
  simp only [weave, hk]
  rw [Nat.add_div_right _ (by omega), List.range_succ_eq_map, Nat.add_mod_right]
  simp only [List.flatMap_cons, List.flatMap_map, List.append_assoc]
  congr 1
  congr 1
  congr 1
  split_ifs with heven
  · rw [hlast]
  · rw [hlast, hprev _ (by omega)]

theorem names_literal (a : List Char) : Plan.names (Segment.literal? a) = [] := by
  unfold Segment.literal?
  split_ifs <;> rfl

theorem textFrom_literal (i : Nat) (a : List Char) (plan : Plan) :
    Plan.textFrom i (Segment.literal? a ++ plan) = a ++ Plan.textFrom i plan := by
  unfold Segment.literal?
  split_ifs with ha
  · simp [List.isEmpty_iff.mp ha]
  · rfl

theorem names_append (p q : Plan) : Plan.names (p ++ q) = Plan.names p ++ Plan.names q :=
  List.filterMap_append

theorem names_placeholder (name : List Char) (plan : Plan) :
    Plan.names (.placeholder name :: plan) = String.ofList name :: Plan.names plan := rfl

theorem names_outline (ps : List (List Char)) :
    Plan.names (outline ps) =
      (List.range ((ps.length - 1) / 2)).map fun i => String.ofList (ps.getD (2 * i + 1) []) := by
  induction ps using outline.induct with
  | case1 => rfl
  | case2 a => simpa [outline] using names_literal a
  | case3 a b => simpa [outline] using names_literal (a ++ '$' :: b)
  | case4 a b c rest ih =>
    have hn : ((a :: b :: c :: rest).length - 1) / 2 = ((c :: rest).length - 1) / 2 + 1 := by
      simp only [List.length_cons]
      omega
    rw [hn, List.range_succ_eq_map, List.map_cons, List.map_map, outline, names_append,
      names_literal, names_placeholder, ih]
    rfl

theorem textFrom_outline (ps : List (List Char)) (n : Nat) :
    Plan.textFrom n (outline ps) = weave ps fun i => (marker (n + i)).toList := by
  induction ps using outline.induct generalizing n with
  | case1 => rfl
  | case2 a => simpa [outline, Plan.textFrom] using textFrom_literal n a []
  | case3 a b => simpa [outline, Plan.textFrom] using textFrom_literal n (a ++ '$' :: b) []
  | case4 a b c rest ih =>
    rw [weave_cons]
    simp only [outline, textFrom_literal, Plan.textFrom, ih, Nat.add_zero, List.append_assoc]
    simp only [Nat.add_assoc, Nat.add_comm 1]

theorem weave_names (ps : List (List Char)) :
    weave ps (fun i => '$' :: ps.getD (2 * i + 1) [] ++ ['$']) = ['$'].intercalate ps := by
  induction ps using outline.induct with
  | case1 => rfl
  | case2 a => simp
  | case3 a b => simp
  | case4 a b c rest ih =>
    rw [weave_cons]
    have hshift : (fun i => '$' :: (a :: b :: c :: rest).getD (2 * (i + 1) + 1) [] ++ ['$']) =
        fun i => '$' :: (c :: rest).getD (2 * i + 1) [] ++ ['$'] := rfl
    rw [hshift, ih]
    simp

theorem occurrences_eq_length (plan : Plan) : plan.occurrences = plan.names.length := by
  induction plan with
  | nil => rfl
  | cons s plan ih => cases s <;> simp_all [Plan.occurrences, Plan.names, Segment.placeholder?]

def fieldOr (row : Row) (name : String) : Json := (row.get? name).getD (.str "")

theorem names_plan (t : Template) :
    Plan.names t.plan = (List.range (t.dollars / 2)).map t.nameAt := by
  rw [plan_eq_outline, names_outline, pieces, pieces_length]
  rfl

theorem values_parse (t : Template) (row : Row) :
    (t.parse row).values = (List.range (t.dollars / 2)).map fun i => fieldOr row (t.nameAt i) := by
  have hv : (t.parse row).values = (Plan.names t.plan).map (fieldOr row) := rfl
  rw [hv, names_plan, List.map_map]
  rfl

theorem sql_parse (t : Template) (row : Row) :
    (t.parse row).sql = String.ofList (t.filled fun i => (marker i).toList) := by
  have hs : (t.parse row).sql = String.ofList (Plan.textFrom 0 t.plan) := rfl
  rw [hs, plan_eq_outline, textFrom_outline]
  simp only [Nat.zero_add]
  rfl

theorem source_eq_filled (t : Template) :
    t.source = String.ofList (t.filled fun i => '$' :: (t.nameAt i).toList ++ ['$']) := by
  have hw := weave_names t.pieces
  rw [pieces, List.intercalate_splitOn] at hw
  have hf : (fun i => '$' :: (t.nameAt i).toList ++ ['$']) =
      fun i => '$' :: t.pieces.getD (2 * i + 1) [] ++ ['$'] := by
    funext i
    simp only [nameAt, piece, String.toList_ofList]
  rw [filled, hf, pieces, hw, String.ofList_toList]

theorem parameters_parse (t : Template) (row : Row) :
    (t.parse row).parameters =
      (List.range (t.dollars / 2)).map fun i => (marker i, fieldOr row (t.nameAt i)) := by
  apply List.ext_getElem?
  intro i
  simp only [BoundStatement.parameters, values_parse, List.getElem?_map, List.getElem?_zipIdx]
  by_cases hi : i < t.dollars / 2
  · simp [List.getElem?_range hi]
  · simp [List.getElem?_eq_none (l := List.range (t.dollars / 2)) (by simpa using hi)]

/-- The reader agrees with the cut. The pieces are the source without its `$` signs; the placeholders are
the pieces at odd places with a sign on both sides; the statement is the source with a marker in place
of each, whatever the row, and the source comes back when the names are put there; the values are the
row's own under exactly these names. -/
theorem parse_eq_cut (t : Template) (row : Row) :
    (t.pieces.length = t.dollars + 1 ∧ (∀ p ∈ t.pieces, '$' ∉ p) ∧
      ['$'].intercalate t.pieces = t.source.toList) ∧
    Plan.names t.plan = (List.range (t.dollars / 2)).map t.nameAt ∧
    Plan.occurrences t.plan = t.dollars / 2 ∧
    (t.parse row).sql = String.ofList (t.filled fun i => (marker i).toList) ∧
    (t.parse row).values = (List.range (t.dollars / 2)).map (fun i => fieldOr row (t.nameAt i)) ∧
    (t.parse row).parameterCount = t.dollars / 2 ∧
    (t.parse row).parameters =
      (List.range (t.dollars / 2)).map (fun i => (marker i, fieldOr row (t.nameAt i))) ∧
    t.source = String.ofList (t.filled fun i => '$' :: (t.nameAt i).toList ++ ['$']) ∧
    (∀ other : Row, (t.parse other).sql = (t.parse row).sql) ∧
    ∀ rows : List Row, rows.map (Plan.bind t.plan) = rows.map t.parse := by
  refine ⟨⟨pieces_length _, fun _ hp => not_mem_of_mem_pieces hp, List.intercalate_splitOn _⟩,
    names_plan t, ?_, sql_parse t row, values_parse t row, ?_, parameters_parse t row,
    source_eq_filled t, fun other => ?_, fun _ => rfl⟩
  · rw [occurrences_eq_length, names_plan, List.length_map, List.length_range]
  · rw [BoundStatement.parameterCount, values_parse, List.length_map, List.length_range]
  · rw [sql_parse, sql_parse]

/-- An empty name counts, and a sign that nothing closes does not. -/
example : Plan.names (plan ⟨"a $$ b $ c"⟩) = [""] ∧ (parse ⟨"a $$ b $ c"⟩ []).sql = "a @p0 b $ c" := by
  decide

end EndpointGate.Template
