import EndpointGate.Proofs.LexemePlaces
import EndpointGate.Proofs.ParameterSlots
import Mathlib.Data.List.Sort

/-! Where a template's markers stand, and when they are all the parameters its statement has. Literal text
is never looked at for parameters of its own, and a marker is only looked for by its name. -/

namespace EndpointGate

open Sql (Source Parameters Bindings)

namespace Sql.Parameters

theorem names_ofLexemes {p q : Parameters} {ls : List Lexeme} (h : p.ofLexemes ls = .ok q)
    (hnames : ((ls.filterMap Lexeme.parameter?).map Prod.fst).Nodup)
    (hfresh : ∀ x ∈ ls.filterMap Lexeme.parameter?, ¬Numbered x.1 ∧ ∀ slot, ¬p.NamedAt slot x.1) :
    q.names = p.names ++ ((ls.filterMap Lexeme.parameter?).map Prod.fst).map some := by
  induction ls generalizing p with
  | nil =>
    obtain rfl := Except.ok.inj h
    simp
  | cons l ls ih =>
    obtain ⟨token, offset⟩ := l
    cases token with
    | parameter name =>
      obtain ⟨p', hadd, hrest⟩ := bind_eq_ok h
      have hcons : (⟨.parameter name, offset⟩ :: ls).filterMap Lexeme.parameter? =
          (name, offset) :: ls.filterMap Lexeme.parameter? := rfl
      rw [hcons] at hnames hfresh ⊢
      obtain ⟨hfirst, hnames⟩ := List.nodup_cons.mp hnames
      obtain ⟨⟨hnumber, hfree⟩, hothers⟩ := List.forall_mem_cons.mp hfresh
      have hp' : p'.names = p.names ++ [some name] := by
        unfold add at hadd
        split at hadd
        · rename_i hl
          exact absurd ⟨_, hl⟩ hnumber
        · rename_i digits _ hl
          exact absurd ⟨digits, hl⟩ hnumber
        · rw [slot?_eq_none_iff.mpr hfree] at hadd
          rw [← Except.ok.inj hadd]
      rw [ih hrest hnames ?_, hp', List.append_assoc]
      · rfl
      · intro x hx
        refine ⟨(hothers x hx).1, fun slot hslot => ?_⟩
        rw [NamedAt, hp'] at hslot
        rcases getElem?_append_name.mp hslot with hold | ⟨-, hname⟩
        · exact (hothers x hx).2 slot hold
        · exact hfirst (List.mem_map.mpr ⟨x, hx, hname⟩)
    | _ => exact ih h hnames hfresh

end Sql.Parameters

namespace Template

theorem mem_marker {c : Char} (i : Nat) (h : c ∈ 'p' :: Nat.toDigits 10 i) :
    c = 'p' ∨ Sql.Token.isDigit c = true := by
  rcases List.mem_cons.mp h with rfl | hdigit
  · exact Or.inl rfl
  · have hc := Nat.isDigit_of_mem_toDigits (by decide) (by decide) hdigit
    simp only [Char.isDigit, Bool.and_eq_true, decide_eq_true_eq] at hc
    simp only [Sql.Token.isDigit, Bool.and_eq_true, decide_eq_true_eq]
    exact Or.inr hc

theorem continuesName_of_mem_marker {c : Char} (i : Nat) (h : c ∈ 'p' :: Nat.toDigits 10 i) :
    Sql.Token.continuesName c = true := by
  rcases mem_marker i h with rfl | hdigit
  · decide
  · simp [Sql.Token.continuesName, hdigit]

theorem not_mark_of_mem_marker {c : Char} (i : Nat) (h : c ∈ 'p' :: Nat.toDigits 10 i) :
    Sql.Token.isMark c = false := by
  rcases mem_marker i h with rfl | hdigit
  · decide
  · by_contra hmark
    simp only [Sql.Token.isMark, Bool.not_eq_false, Bool.or_eq_true, beq_iff_eq, or_assoc] at hmark
    rcases hmark with rfl | rfl | rfl | rfl | rfl <;> exact absurd hdigit (by decide)

end Template

def Segment.text : Segment → List Char
  | .literal text => text
  | .placeholder _ => []

namespace Plan

variable {i k offset : Nat} {name : String} {plan : Plan}

def markersFrom (i offset : Nat) : Plan → List (String × Nat)
  | [] => []
  | .literal text :: rest => markersFrom i (offset + text.length) rest
  | .placeholder _ :: rest =>
    (Template.marker i, offset) ::
      markersFrom (i + 1) (offset + (Template.marker i).toList.length) rest

theorem markersFrom_names (i offset : Nat) (plan : Plan) :
    (markersFrom i offset plan).map Prod.fst =
      (List.range plan.occurrences).map fun k => Template.marker (i + k) := by
  induction plan generalizing i offset with
  | nil => rfl
  | cons s plan ih =>
    cases s with
    | literal text =>
      rw [markersFrom, ih]
      rfl
    | placeholder name =>
      have hcount : occurrences (.placeholder name :: plan) = occurrences plan + 1 := by
        simp [occurrences, Segment.placeholder?]
      rw [markersFrom, List.map_cons, ih, hcount, List.range_succ_eq_map, List.map_cons, List.map_map]
      simp only [Function.comp_def, Nat.add_zero, Nat.succ_eq_add_one, Nat.add_assoc, Nat.add_comm 1]

theorem text_of_mem_markersFrom (before : List Char)
    (h : (name, offset) ∈ markersFrom i before.length plan) :
    before.length ≤ offset ∧
      ∃ more, (before ++ textFrom i plan).drop offset = name.toList ++ more := by
  induction plan generalizing i before with
  | nil => cases h
  | cons s plan ih =>
    cases s with
    | literal text =>
      rw [markersFrom, ← List.length_append] at h
      obtain ⟨hle, hmore⟩ := ih (before ++ text) h
      rw [List.append_assoc] at hmore
      rw [List.length_append] at hle
      exact ⟨Nat.le_of_add_right_le hle, hmore⟩
    | placeholder own =>
      rw [markersFrom, ← List.length_append] at h
      rcases List.mem_cons.mp h with he | h
      · obtain ⟨rfl, rfl⟩ := Prod.mk.inj he
        exact ⟨Nat.le_refl _, textFrom (i + 1) plan, List.drop_left⟩
      · obtain ⟨hle, hmore⟩ := ih (before ++ (Template.marker i).toList) h
        rw [List.append_assoc] at hmore
        rw [List.length_append] at hle
        exact ⟨Nat.le_of_add_right_le hle, hmore⟩

theorem le_of_mem_markersFrom {q : String × Nat} (h : q ∈ markersFrom i offset plan) :
    offset ≤ q.2 := by
  have hbefore : (q.1, q.2) ∈ markersFrom i (List.replicate offset ' ').length plan := by
    rwa [List.length_replicate]
  simpa using (text_of_mem_markersFrom _ hbefore).1

theorem pairwise_markersFrom (i offset : Nat) (plan : Plan) :
    (markersFrom i offset plan).Pairwise (·.2 < ·.2) := by
  induction plan generalizing i offset with
  | nil => exact .nil
  | cons s plan ih =>
    cases s with
    | literal text => exact ih _ _
    | placeholder own =>
      refine .cons (fun q hq => ?_) (ih _ _)
      have hafter := le_of_mem_markersFrom hq
      simp only [Template.toList_marker, List.length_cons] at hafter
      dsimp only
      omega

theorem mark_mem_markersFrom {c : Char} (before : List Char)
    (hplain : ∀ s ∈ plan, ∀ c ∈ s.text, Sql.Token.isMark c = false)
    (hle : before.length ≤ offset) (h : (before ++ textFrom i plan)[offset]? = some c)
    (hc : Sql.Token.isMark c = true) :
    offset ∈ (markersFrom i before.length plan).map Prod.snd := by
  induction plan generalizing i before with
  | nil =>
    rw [textFrom, List.append_nil, List.getElem?_eq_none hle] at h
    cases h
  | cons s plan ih =>
    obtain ⟨hplain, hrest⟩ := List.forall_mem_cons.mp hplain
    -- a character of this segment, or one of those after it
    have hhere : ∀ {own more : List Char}, (before ++ (own ++ more))[offset]? = some c →
        own[offset - before.length]? = some c ∨ (before ++ own).length ≤ offset := by
      intro own more ho
      rw [List.getElem?_append_right hle] at ho
      by_cases hlt : offset - before.length < own.length
      · exact Or.inl (List.getElem?_append_left hlt ▸ ho)
      · exact Or.inr (by rw [List.length_append]; omega)
    cases s with
    | literal text =>
      rw [markersFrom, ← List.length_append]
      rcases hhere h with hown | hafter
      · have hmark := hplain c (List.mem_of_getElem? hown)
        exact absurd hc (by simp [hmark])
      · exact ih (before ++ text) hrest hafter (by rwa [List.append_assoc])
    | placeholder name =>
      rw [markersFrom, List.map_cons, List.mem_cons, ← List.length_append]
      rcases hhere h with hown | hafter
      · refine Or.inl ?_
        by_contra hne
        obtain ⟨n, hn⟩ : ∃ n, offset - before.length = n + 1 := ⟨offset - before.length - 1, by omega⟩
        rw [hn, Template.toList_marker, List.getElem?_cons_succ] at hown
        have hmark := Template.not_mark_of_mem_marker i (List.mem_of_getElem? hown)
        exact absurd hc (by simp [hmark])
      · exact Or.inr (ih (before ++ (Template.marker i).toList) hrest hafter (by rwa [List.append_assoc]))

end Plan

namespace Template

def markers (t : Template) : List (String × Nat) := Plan.markersFrom 0 0 t.plan

def Plain (t : Template) : Prop :=
  ∀ s ∈ t.plan, ∀ c ∈ s.text, Sql.Token.isMark c = false

instance (t : Template) : Decidable t.Plain :=
  decidable_of_iff (t.plan.all fun s => s.text.all fun c => !Sql.Token.isMark c) (by simp [Plain])

theorem le_of_marker_starts {i j : Nat} (h : (marker i).toList <+: (marker j).toList) : i ≤ j := by
  simp only [toList_marker, List.prefix_cons_inj] at h
  rcases Nat.lt_or_ge (Nat.toDigits 10 i).length (Nat.toDigits 10 j).length with hlt | hge
  · have hi : i < 10 ^ (Nat.toDigits 10 i).length :=
      (Nat.length_toDigits_le_iff (by decide) (Nat.length_toDigits_pos)).mp (Nat.le_refl _)
    have hj : ¬j < 10 ^ (Nat.toDigits 10 i).length := fun hj =>
      absurd ((Nat.length_toDigits_le_iff (by decide) (Nat.length_toDigits_pos)).mpr hj) (by omega)
    omega
  · have heq := h.eq_of_length_le hge
    have hmarker : marker i = marker j := String.toList_inj.mp (by simp [toList_marker, heq])
    exact (marker_injective hmarker).le

section Exact

variable {t : Template} {row : Row} {p : Parameters} {b : Bindings} {i : Nat} {offset : Nat}
  {name : String}

theorem marker_starts (hm : (marker i, offset) ∈ t.markers)
    (h : (name, offset) ∈ (Source.first (t.parse row).sql).parameters) :
    (marker i).toList <+: name.toList := by
  obtain ⟨c, rest, hread, hname⟩ := Source.nameAt_of_mem h
  obtain ⟨-, more, hplace⟩ := Plan.text_of_mem_markersFrom [] hm
  have htext : (t.parse row).sql.toList.drop offset = (marker i).toList ++ more := by
    simpa [parse, Plan.bind] using hplace
  have hnul : ∀ d ∈ (marker i).toList, d ≠ '\x00' := by
    intro d hd
    rw [toList_marker, List.mem_cons] at hd
    rcases hd with rfl | hd
    · decide
    · rintro rfl
      exact absurd (continuesName_of_mem_marker i hd) (by decide)
  obtain ⟨more', hmore⟩ := Source.drop_text hread htext hnul
  rw [toList_marker, List.cons_append] at hmore
  obtain ⟨rfl, rfl⟩ := List.cons.inj hmore
  rw [toList_marker]
  exact hname.goesOn fun d hd => continuesName_of_mem_marker i hd

theorem getElem?_markers {q : String × Nat} (h : t.markers[i]? = some q) :
    i < Plan.occurrences t.plan ∧ q.1 = marker i := by
  have hname : (t.markers.map Prod.fst)[i]? = some q.1 := by rw [List.getElem?_map, h, Option.map_some]
  rw [markers, Plan.markersFrom_names, List.getElem?_map] at hname
  obtain ⟨k, hk, hmarker⟩ := Option.map_eq_some_iff.mp hname
  obtain ⟨hi, rfl⟩ := List.getElem?_eq_some_iff.mp hk
  rw [List.getElem_range, Nat.zero_add] at hmarker
  exact ⟨by simpa using hi, hmarker.symm⟩

/-- Whether every parameter of the statement starts where a marker has been put. -/
def AtMarkers (t : Template) (row : Row) : Prop :=
  ∀ q ∈ (Source.first (t.parse row).sql).parameters, q.2 ∈ t.markers.map Prod.snd

theorem AtMarkers.marker (hplaces : t.AtMarkers row)
    (h : (name, offset) ∈ (Source.first (t.parse row).sql).parameters) :
    ∃ i, t.markers[i]? = some (Template.marker i, offset) ∧
      (Template.marker i).toList <+: name.toList := by
  obtain ⟨⟨own, place⟩, hmem, rfl⟩ := List.mem_map.mp (hplaces _ h)
  obtain ⟨i, hi⟩ := List.mem_iff_getElem?.mp hmem
  obtain rfl := (getElem?_markers hi).2
  exact ⟨i, hi, marker_starts hmem h⟩

/-- A marker that is read at an earlier place would start with the marker that belongs there; but that one
is read there, and at one place there is one parameter. -/
theorem AtMarkers.own_place (hplaces : t.AtMarkers row)
    (hall : ∀ i < Plan.occurrences t.plan, ∃ offset,
      (Template.marker i, offset) ∈ (Source.first (t.parse row).sql).parameters)
    (h : t.markers[i]? = some (Template.marker i, offset)) :
    (Template.marker i, offset) ∈ (Source.first (t.parse row).sql).parameters := by
  induction i using Nat.strong_induction_on generalizing offset with
  | _ i ih =>
    obtain ⟨place, hread⟩ := hall i (getElem?_markers h).1
    obtain ⟨k, hk, hstarts⟩ := hplaces.marker hread
    rcases (le_of_marker_starts hstarts).lt_or_eq with hlt | rfl
    · have hsame := Source.parameter_unique hread (ih k hlt hk)
      exact absurd (marker_injective hsame) (Nat.ne_of_gt hlt)
    · obtain ⟨-, rfl⟩ := Prod.mk.inj (Option.some.inj (h.symm.trans hk))
      exact hread

theorem AtMarkers.parameters_eq (hplaces : t.AtMarkers row)
    (hall : ∀ i < Plan.occurrences t.plan, ∃ offset,
      (Template.marker i, offset) ∈ (Source.first (t.parse row).sql).parameters) :
    (Source.first (t.parse row).sql).parameters = t.markers := by
  have hirrefl : Std.Irrefl fun q q' : String × Nat => q.2 < q'.2 := ⟨fun q => Nat.lt_irrefl q.2⟩
  have hantisymm : Std.Antisymm fun q q' : String × Nat => q.2 < q'.2 :=
    ⟨fun _ _ h h' => absurd h (Nat.lt_asymm h')⟩
  refine (Source.pairwise_parameters _).eq_of_mem_iff (Plan.pairwise_markersFrom 0 0 t.plan) ?_
  rintro ⟨name, offset⟩
  constructor
  · intro h
    obtain ⟨i, hi, -⟩ := hplaces.marker h
    rw [Source.parameter_unique h (hplaces.own_place hall hi)]
    exact List.mem_of_getElem? hi
  · intro h
    obtain ⟨i, hi⟩ := List.mem_iff_getElem?.mp h
    obtain rfl := (getElem?_markers hi).2
    exact hplaces.own_place hall hi

/-- Whether the statement's parameters are the markers, each at its place and with its value. -/
structure OnlyMarkers (t : Template) (row : Row) (p : Parameters) (b : Bindings) : Prop where
  places : (Source.first (t.parse row).sql).parameters = t.markers
  names : p.names = (List.range (Plan.occurrences t.plan)).map fun i => some (marker i)
  values : ∀ i v, (t.parse row).values[i]? = some v → b.value i = .ofJson v

theorem occurrences_eq_values (t : Template) (row : Row) :
    Plan.occurrences t.plan = (t.parse row).values.length := by
  rw [occurrences_eq_length]
  simp [parse, Plan.bind]

theorem onlyMarkers_of_parameters {st : Sql.Statement}
    (hparse : Sql.parse (t.parse row).sql = .ok (st, p))
    (hb : Engine.HoldsExactly p (t.parse row).values b)
    (h : (Source.first (t.parse row).sql).parameters = t.markers) : OnlyMarkers t row p b := by
  have hnames : t.markers.map Prod.fst = (List.range (Plan.occurrences t.plan)).map marker := by
    simp only [markers, Plan.markersFrom_names, Nat.zero_add]
  have hslots : p.names = (List.range (Plan.occurrences t.plan)).map fun i => some (marker i) := by
    have hread := Sql.Parameters.names_ofLexemes (Sql.Parameters.ofLexemes_of_parse hparse)
    rw [← Source.parameters, h, hnames] at hread
    rw [hread (List.nodup_range.map fun i j => marker_injective), List.nil_append, List.map_map]
    · rfl
    · intro x hx
      obtain ⟨i, hi⟩ := List.mem_iff_getElem?.mp hx
      rw [(getElem?_markers hi).2]
      exact ⟨not_numbered_marker i, fun slot => Sql.Parameters.not_namedAt_empty slot _⟩
  refine ⟨h, hslots, fun i v hv => ?_⟩
  obtain ⟨slot, hslot, hvalue⟩ := hb.own i v hv
  have hi : i < Plan.occurrences t.plan :=
    occurrences_eq_values t row ▸ (List.getElem?_eq_some_iff.mp hv).1
  have hown : p.NamedAt i (marker i) := by
    rw [Parameters.NamedAt, hslots]
    simp [hi]
  rwa [(hslot i).mp hown]

theorem atMarkers_of_plain (h : t.Plain) : t.AtMarkers row := by
  intro q hq
  obtain ⟨c, rest, hread, hname⟩ := Source.nameAt_of_mem hq
  have hchar : (t.parse row).sql.toList[q.2]? = some c := by
    have hc : (Source.first (t.parse row).sql).text[q.2]? = some c := by
      rw [← Nat.add_zero q.2, ← List.getElem?_drop, hread, List.getElem?_cons_zero]
    obtain ⟨hlt, -⟩ := List.getElem?_eq_some_iff.mp hc
    obtain ⟨more, hmore⟩ := List.takeWhile_prefix (l := (t.parse row).sql.toList) (· != '\x00')
    rw [← hmore]
    exact (List.getElem?_append_left hlt).trans hc
  refine Plan.mark_mem_markersFrom [] h (Nat.zero_le _) ?_ hname.isMark
  simpa [parse, Plan.bind] using hchar

/-- Once a statement is prepared and bound, its parameters are the markers, each at its place and with its
value, just if none of them starts in literal text; and so they are if literal text has no mark. Whatever
literal text has, a slot has the value of a marker that names it, or none. -/
theorem onlyMarkers_iff (t : Template) (row : Row) (c : Sql.Connection) (p : Sql.Prepared) (b : Bindings)
    (h : Engine.prepare c (t.parse row) = .ok (p, b)) :
    (OnlyMarkers t row p.parameters b ↔ t.AtMarkers row) ∧
    (t.Plain → OnlyMarkers t row p.parameters b) ∧
    ∀ slot, (∃ i v, (t.parse row).values[i]? = some v ∧ p.parameters.NamedAt slot (marker i) ∧
        b.value slot = .ofJson v) ∨
      ((∀ i < Plan.occurrences t.plan, ¬p.parameters.NamedAt slot (marker i)) ∧
        b.value slot = .null) := by
  obtain ⟨hp, hb⟩ := Engine.bindMarkers_of_prepare h
  obtain ⟨st, hparse⟩ := Engine.parse_of_prepare hp
  have hholds := Engine.holdsExactly_of_bindMarkers (Sql.Parameters.wellNamed_of_parse hparse) hb
  have hall : ∀ i < Plan.occurrences t.plan, ∃ offset,
      (marker i, offset) ∈ (Source.first (t.parse row).sql).parameters := by
    intro i hi
    rw [occurrences_eq_values t row] at hi
    obtain ⟨slot, hslot, -⟩ := hholds.own i _ (List.getElem?_eq_getElem hi)
    obtain ⟨⟨token, offset⟩, hl, rfl⟩ :=
      (Sql.Parameters.namedAt_of_parse hparse (not_numbered_marker i)).mp ⟨slot, (hslot slot).mpr rfl⟩
    exact ⟨offset, Source.mem_parameters.mpr hl⟩
  have hexact : t.AtMarkers row → OnlyMarkers t row p.parameters b := fun hplaces =>
    onlyMarkers_of_parameters hparse hholds (hplaces.parameters_eq hall)
  refine ⟨⟨fun ho q hq => ?_, hexact⟩, fun hplain => hexact (atMarkers_of_plain hplain), fun slot => ?_⟩
  · rw [ho.places] at hq
    exact List.mem_map_of_mem hq
  · by_cases hslot : ∃ i < Plan.occurrences t.plan, p.parameters.NamedAt slot (marker i)
    · obtain ⟨i, hi, hname⟩ := hslot
      have hv := List.getElem?_eq_getElem (occurrences_eq_values t row ▸ hi)
      obtain ⟨own, hown, hvalue⟩ := hholds.own i _ hv
      obtain rfl := (hown slot).mp hname
      exact Or.inl ⟨i, _, hv, hname, hvalue⟩
    · have hfree : ∀ i < Plan.occurrences t.plan, ¬p.parameters.NamedAt slot (marker i) :=
        fun i hi hname => hslot ⟨i, hi, hname⟩
      refine Or.inr ⟨hfree, Engine.value_of_not_mem (hholds.others slot ?_)⟩
      rwa [← occurrences_eq_values t row]

end Exact

theorem prepared_of_query {t : Template} {row : Row} {s : Store} {rows : List Row}
    (h : (Engine.query t row s).1 = .ok rows) :
    ∃ c p b, s.connect = .ok c ∧ Engine.prepare c (t.parse row) = .ok (p, b) := by
  unfold Engine.query at h
  split at h
  · cases h
  · rename_i c hc
    split at h
    · cases h
    · rename_i p b hp
      exact ⟨c, p, b, hc, hp⟩

/-- The marker stands in a text between quotes, and literal text has its name: the value is bound there. -/
theorem value_bound_in_literal :
    let t : Template := ⟨"SELECT '$a$' AS v, @p0 AS w"⟩
    let row : Row := [("a", .str "x")]
    let s : Store := { path := "gate.db", medium := .database [] }
    (Engine.query t row s).1 = .ok [[("v", .str "@p0"), ("w", .str "x")]] ∧
      t.markers = [("@p0", 8)] ∧
      (Source.first (t.parse row).sql).parameters = [("@p0", 19)] ∧
      ∃ c p b, s.connect = .ok c ∧ Engine.prepare c (t.parse row) = .ok (p, b) ∧
        ¬OnlyMarkers t row p.parameters b := by
  intro t row s
  have hquery : (Engine.query t row s).1 = .ok [[("v", .str "@p0"), ("w", .str "x")]] := by
    decide +kernel
  have hmarkers : t.markers = [("@p0", 8)] := by decide +kernel
  have hread : (Source.first (t.parse row).sql).parameters = [("@p0", 19)] := by decide +kernel
  obtain ⟨c, p, b, hc, hp⟩ := prepared_of_query hquery
  refine ⟨hquery, hmarkers, hread, c, p, b, hc, hp, fun honly => ?_⟩
  have hplaces := honly.places
  rw [hmarkers, hread] at hplaces
  exact absurd hplaces (by decide)

theorem onlyMarkers_iff_plain :
    let t : Template := ⟨"SELECT $b$ AS v, $a$ AS w, $b$ AS z"⟩
    let row : Row := [("a", .str "x"), ("b", .int 7)]
    t.Plain ∧ t.markers = [("@p0", 7), ("@p1", 17), ("@p2", 27)] ∧
      ∃ c p b, Engine.prepare c (t.parse row) = .ok (p, b) ∧ OnlyMarkers t row p.parameters b ∧
        p.parameters.names = [some "@p0", some "@p1", some "@p2"] ∧
        [b.value 0, b.value 1, b.value 2] = [.ofJson (.int 7), .ofJson (.str "x"), .ofJson (.int 7)] := by
  intro t row
  have hplain : t.Plain := by decide +kernel
  have hquery : (Engine.query t row { path := "gate.db", medium := .database [] }).1 =
      .ok [[("v", .int 7), ("w", .str "x"), ("z", .int 7)]] := by
    decide +kernel
  obtain ⟨c, p, b, -, hp⟩ := prepared_of_query hquery
  have honly := (onlyMarkers_iff t row c p b hp).2.1 hplain
  refine ⟨hplain, by decide +kernel, c, p, b, hp, honly, ?_, ?_⟩
  · rw [honly.names]
    decide +kernel
  · rw [honly.values 0 (.int 7) (by decide +kernel), honly.values 1 (.str "x") (by decide +kernel),
      honly.values 2 (.int 7) (by decide +kernel)]

end Template

end EndpointGate
