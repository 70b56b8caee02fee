import EndpointGate.Proofs.BatchAtomicity
import EndpointGate.Proofs.TemplateCut
import Mathlib.Data.List.Forall2
import Mathlib.Data.List.Nodup

/-! Markers and the slots of a statement. Every name of a parameter has one slot, so that each marker is
given its own value, whichever others there are. Whether all markers have slots is decided by the text
alone: a batch that lacks one fails at its first row, before any statement has run. -/

namespace EndpointGate

namespace Sql.Parameters

variable {p q : Parameters} {offset slot k : Nat} {name other : String}

def NamedAt (p : Parameters) (slot : Nat) (name : String) : Prop := p.names[slot]? = some (some name)

def Numbered (name : String) : Prop := ∃ digits, name.toList = '?' :: digits

theorem slot?_eq_none_iff : p.slot? name = none ↔ ∀ slot, ¬p.NamedAt slot name := by
  simp only [slot?, List.findIdx?_eq_none_iff, beq_eq_false_iff_ne, NamedAt]
  constructor
  · exact fun h slot he => h _ (List.mem_of_getElem? he) rfl
  · rintro h x hx rfl
    obtain ⟨slot, hslot⟩ := List.mem_iff_getElem?.mp hx
    exact h slot hslot

theorem namedAt_of_slot? (h : p.slot? name = some slot) : p.NamedAt slot name := by
  obtain ⟨hlt, hname, -⟩ := List.findIdx?_eq_some_iff_getElem.mp h
  rw [NamedAt, List.getElem?_eq_getElem hlt, beq_iff_eq.mp hname]

section Adding

variable {names : List (Option String)}

theorem getElem?_append_none (n : Nat) :
    (names ++ List.replicate n none)[k]? = some (some other) ↔ names[k]? = some (some other) := by
  by_cases hk : k < names.length
  · rw [List.getElem?_append_left hk]
  · rw [List.getElem?_append_right (by omega), List.getElem?_eq_none (l := names) (by omega)]
    simp [List.getElem?_replicate]

theorem getElem?_append_name :
    (names ++ [some name])[k]? = some (some other) ↔
      names[k]? = some (some other) ∨ (k = names.length ∧ other = name) := by
  rcases Nat.lt_trichotomy k names.length with hk | rfl | hk
  · rw [List.getElem?_append_left hk]
    simp [Nat.ne_of_lt hk]
  · simp [eq_comm]
  · rw [List.getElem?_eq_none (by simp; omega), List.getElem?_eq_none (by omega)]
    simp [Nat.ne_of_gt hk]

theorem nameSlot_of_named {own : String} (h : names[slot]? = some (some own)) :
    (nameSlot names slot name)[k]? = some (some other) ↔ names[k]? = some (some other) := by
  have hown : ((names ++ List.replicate (slot + 1 - names.length) none)[slot]?).getD none =
      some own := by
    rw [getElem?_append_none _ |>.mpr h, Option.getD_some]
  rw [nameSlot, List.getD_eq_getElem?_getD]
  simp only [hown, Option.isSome_some, if_true]
  exact getElem?_append_none _

theorem nameSlot_of_unnamed (h : ∀ own : String, names[slot]? ≠ some (some own)) :
    (nameSlot names slot name)[k]? = some (some other) ↔
      names[k]? = some (some other) ∨ (k = slot ∧ other = name) := by
  have hnone : ((names ++ List.replicate (slot + 1 - names.length) none)[slot]?).getD none =
      none := by
    cases hx : (names ++ List.replicate (slot + 1 - names.length) none)[slot]? with
    | none => rfl
    | some x =>
      cases x with
      | none => rfl
      | some own => exact absurd (getElem?_append_none _ |>.mp hx) (h own)
  have hlt : slot < (names ++ List.replicate (slot + 1 - names.length) none).length := by
    simp only [List.length_append, List.length_replicate]
    omega
  rw [nameSlot, List.getD_eq_getElem?_getD]
  simp only [hnone, Option.isSome_none, Bool.false_eq_true, if_false, List.getElem?_set]
  by_cases hk : slot = k
  · subst hk
    rw [if_pos rfl, if_pos hlt]
    simp [h, eq_comm]
  · simp only [if_neg hk, getElem?_append_none, Ne.symm hk, false_and, or_false]

theorem namedAt_of_add (h : p.add offset name = .ok q) :
    ((∀ k other, q.NamedAt k other ↔ p.NamedAt k other) ∧
      (¬Numbered name → ∃ slot, p.NamedAt slot name)) ∨
    ∃ slot, (∀ k other, q.NamedAt k other ↔ p.NamedAt k other ∨ (k = slot ∧ other = name)) ∧
      (∀ digits, name.toList = '?' :: digits → Token.digitsValue digits = slot + 1) ∧
      (¬Numbered name → ∀ slot, ¬p.NamedAt slot name) ∧ ∀ own, ¬p.NamedAt slot own := by
  unfold add at h
  split at h
  · rename_i hname
    obtain rfl := Except.ok.inj h
    exact Or.inl ⟨fun _ _ => getElem?_append_none 1, fun hn => absurd ⟨_, hname⟩ hn⟩
  · rename_i digits _ hname
    dsimp only at h
    split at h
    · cases h
    · rename_i hn
      obtain rfl := Except.ok.inj h
      simp only [Bool.or_eq_true, decide_eq_true_eq, not_or] at hn
      have hnumbered : Numbered name := ⟨digits, hname⟩
      by_cases hown : ∃ own, p.NamedAt (Token.digitsValue digits - 1) own
      · obtain ⟨own, hown⟩ := hown
        exact Or.inl ⟨fun _ _ => nameSlot_of_named hown, fun hn => absurd hnumbered hn⟩
      · have hfree := not_exists.mp hown
        refine Or.inr ⟨_, fun _ _ => nameSlot_of_unnamed hfree, fun digits' hl => ?_,
          fun hn => absurd hnumbered hn, hfree⟩
        obtain ⟨-, rfl⟩ := List.cons.inj (hname.symm.trans hl)
        omega
  · rename_i hdigits
    have hname : ¬Numbered name := fun ⟨digits, hl⟩ => hdigits digits hl
    split at h
    · rename_i slot hslot
      obtain rfl := Except.ok.inj h
      exact Or.inl ⟨fun _ _ => Iff.rfl, fun _ => ⟨slot, namedAt_of_slot? hslot⟩⟩
    · rename_i hslot
      obtain rfl := Except.ok.inj h
      refine Or.inr ⟨p.count, fun _ _ => getElem?_append_name, fun digits hl => ?_,
        fun _ => slot?_eq_none_iff.mp hslot, fun own hown => ?_⟩
      · exact absurd ⟨digits, hl⟩ hname
      · simp [NamedAt, count] at hown

end Adding

/-- Every name has one slot, and a name by number has the slot of its number. -/
structure WellNamed (p : Parameters) : Prop where
  numbered : ∀ slot name digits, p.NamedAt slot name → name.toList = '?' :: digits →
    Token.digitsValue digits = slot + 1
  unique : ∀ slot slot' name, p.NamedAt slot name → p.NamedAt slot' name → slot = slot'

theorem WellNamed.add (hp : p.WellNamed) (h : p.add offset name = .ok q) : q.WellNamed := by
  rcases namedAt_of_add h with ⟨hsame, -⟩ | ⟨slot, hnew, hdigits, hfirst, -⟩
  · exact ⟨fun k other digits hk => hp.numbered k other digits ((hsame k other).mp hk),
      fun k k' other hk hk' => hp.unique k k' other ((hsame k other).mp hk) ((hsame k' other).mp hk')⟩
  · -- a name that had a slot before has one by its number, which is the same
    have hold : ∀ k, p.NamedAt k name → k = slot := by
      intro k hk
      by_cases hn : Numbered name
      · obtain ⟨digits, hl⟩ := hn
        have hvalue := hp.numbered k name digits hk hl
        have hvalue' := hdigits digits hl
        omega
      · exact absurd hk (hfirst hn k)
    refine ⟨fun k other digits hk hl => ?_, fun k k' other hk hk' => ?_⟩
    · rcases (hnew k other).mp hk with hk | ⟨rfl, rfl⟩
      · exact hp.numbered k other digits hk hl
      · exact hdigits digits hl
    · rcases (hnew k other).mp hk with hk | ⟨rfl, rfl⟩ <;>
        rcases (hnew k' _).mp hk' with hk' | ⟨rfl, he⟩
      · exact hp.unique k k' other hk hk'
      · exact hold k (he ▸ hk)
      · exact (hold k' hk').symm
      · rfl

theorem WellNamed.ofLexemes {ls : List Lexeme} (hp : p.WellNamed) (h : p.ofLexemes ls = .ok q) :
    q.WellNamed := by
  induction ls generalizing p with
  | nil => exact Except.ok.inj h ▸ hp
  | cons l ls ih =>
    obtain ⟨token, offset⟩ := l
    cases token with
    | parameter name =>
      obtain ⟨p', hadd, hrest⟩ := bind_eq_ok h
      exact ih (hp.add hadd) hrest
    | _ => exact ih hp h

theorem namedAt_ofLexemes {ls : List Lexeme} (h : p.ofLexemes ls = .ok q) (hname : ¬Numbered name) :
    (∃ slot, q.NamedAt slot name) ↔
      (∃ slot, p.NamedAt slot name) ∨ ∃ l ∈ ls, l.token = .parameter name := by
  induction ls generalizing p with
  | nil =>
    obtain rfl := Except.ok.inj h
    simp
  | cons l ls ih =>
    obtain ⟨token, offset⟩ := l
    cases token with
    | parameter own =>
      obtain ⟨p', hadd, hrest⟩ := bind_eq_ok h
      have hstep : (∃ slot, p'.NamedAt slot name) ↔ (∃ slot, p.NamedAt slot name) ∨ own = name := by
        rcases namedAt_of_add hadd with ⟨hsame, hmet⟩ | ⟨slot, hnew, -⟩
        · simp only [hsame]
          exact ⟨Or.inl, Or.rec id fun he => he ▸ hmet (he ▸ hname)⟩
        · simp only [hnew]
          constructor
          · rintro ⟨k, hk | ⟨-, rfl⟩⟩
            · exact Or.inl ⟨k, hk⟩
            · exact Or.inr rfl
          · rintro (⟨k, hk⟩ | rfl)
            · exact ⟨k, Or.inl hk⟩
            · exact ⟨slot, Or.inr ⟨rfl, rfl⟩⟩
      rw [ih hrest, hstep]
      simp [or_assoc]
    | _ =>
      have hrest := ih h
      simpa using hrest

theorem ofLexemes_of_parse {text : String} {st : Statement} (h : parse text = .ok (st, p)) :
    ofLexemes {} (Source.first text).lexemes = .ok p := by
  obtain ⟨-, -, h⟩ := bind_eq_ok h
  obtain ⟨p', hp, h⟩ := bind_eq_ok h
  obtain ⟨⟨st', rest⟩, -, h⟩ := bind_eq_ok h
  dsimp only at h
  split at h
  · obtain ⟨-, rfl⟩ := Prod.mk.inj (Except.ok.inj h)
    exact hp
  · cases h

theorem not_namedAt_empty (slot : Nat) (name : String) : ¬({} : Parameters).NamedAt slot name := by
  simp [NamedAt]

theorem wellNamed_of_parse {text : String} {st : Statement} (h : parse text = .ok (st, p)) :
    p.WellNamed := by
  refine WellNamed.ofLexemes ⟨fun slot name _ hn => ?_, fun slot _ name hn => ?_⟩
    (ofLexemes_of_parse h)
  all_goals exact absurd hn (not_namedAt_empty slot name)

theorem namedAt_of_parse {text : String} {st : Statement} (h : parse text = .ok (st, p))
    (hname : ¬Numbered name) :
    (∃ slot, p.NamedAt slot name) ↔ ∃ l ∈ (Source.first text).lexemes, l.token = .parameter name := by
  rw [namedAt_ofLexemes (ofLexemes_of_parse h) hname]
  simp [not_namedAt_empty]

end Sql.Parameters

namespace Template

theorem toList_marker (i : Nat) : (marker i).toList = '@' :: 'p' :: Nat.toDigits 10 i := by
  simp [marker]

theorem marker_injective {i j : Nat} (h : marker i = marker j) : i = j := by
  have hdigits := congrArg String.toList h
  simp only [toList_marker, List.cons.injEq, true_and] at hdigits
  rw [← Nat.ofDigitChars_ten_toDigits (n := i), hdigits, Nat.ofDigitChars_ten_toDigits]

theorem not_numbered_marker (i : Nat) : ¬Sql.Parameters.Numbered (marker i) := by
  rintro ⟨digits, h⟩
  simp [toList_marker] at h

end Template

namespace Engine

open Sql (Connection Prepared Bindings Parameters)

section Binding

variable {p : Parameters} {ps : List (String × Json)} {b : Bindings} {e : StoreError}

theorem bindMarkers_eq_ok (h : bindMarkers p ps = .ok b) :
    List.Forall₂ (fun q x => p.slot? q.1 = some x.1 ∧ x.2 = .ofJson q.2) ps b := by
  induction ps generalizing b with
  | nil =>
    obtain rfl := Except.ok.inj h
    exact .nil
  | cons q ps ih =>
    obtain ⟨marker, value⟩ := q
    rw [bindMarkers] at h
    split at h
    · rename_i slot hslot
      obtain ⟨rest, hrest, rfl⟩ := Sql.map_eq_ok h
      exact .cons ⟨hslot, rfl⟩ (ih hrest)
    · cases h

theorem bindMarkers_eq_error (h : bindMarkers p ps = .error e) :
    ∃ i q, ps[i]? = some q ∧ p.slot? q.1 = none ∧ e = .missingMarker q.1 ∧
      ∀ q' ∈ ps.take i, p.slot? q'.1 ≠ none := by
  induction ps with
  | nil => cases h
  | cons q ps ih =>
    obtain ⟨marker, value⟩ := q
    rw [bindMarkers] at h
    split at h
    · rename_i slot hslot
      cases hrest : bindMarkers p ps with
      | ok b =>
        rw [hrest] at h
        cases h
      | error e' =>
        rw [hrest] at h
        obtain rfl := Except.error.inj h
        obtain ⟨i, q, hq, hnone, he, hbefore⟩ := ih hrest
        refine ⟨i + 1, q, hq, hnone, he, ?_⟩
        rw [List.take_succ_cons, List.forall_mem_cons]
        exact ⟨by simp [hslot], hbefore⟩
    · rename_i hslot
      obtain rfl := Except.error.inj h
      exact ⟨0, (marker, value), rfl, hslot, rfl, by simp⟩

theorem parameters_getElem? (s : BoundStatement) (i : Nat) :
    s.parameters[i]? = s.values[i]?.map fun v => (Template.marker i, v) := by
  simp [BoundStatement.parameters, List.getElem?_zipIdx, Function.comp_def]

structure HoldsExactly (p : Parameters) (values : List Json) (b : Bindings) : Prop where
  own : ∀ i v, values[i]? = some v →
    ∃ slot, (∀ k, p.NamedAt k (Template.marker i) ↔ k = slot) ∧ b.value slot = .ofJson v
  once : (b.map Prod.fst).Nodup
  others : ∀ slot, (∀ i < values.length, ¬p.NamedAt slot (Template.marker i)) →
    slot ∉ b.map Prod.fst

theorem value_of_mem {slot : Nat} {v : Sql.Value} (hb : (b.map Prod.fst).Nodup) (h : (slot, v) ∈ b) :
    b.value slot = v := by
  induction b with
  | nil => cases h
  | cons x b ih =>
    obtain ⟨hx, hb⟩ := List.nodup_cons.mp hb
    rcases List.mem_cons.mp h with rfl | hmem
    · simp [Bindings.value]
    · have hne : x.1 ≠ slot := fun he => hx (he ▸ List.mem_map_of_mem hmem)
      simpa [Bindings.value, hne] using ih hb hmem

theorem value_of_not_mem {slot : Nat} (h : slot ∉ b.map Prod.fst) : b.value slot = .null := by
  have hnone : b.find? (·.1 == slot) = none := by
    refine List.find?_eq_none.mpr fun x hx he => h ?_
    exact beq_iff_eq.mp he ▸ List.mem_map_of_mem hx
  rw [Bindings.value, hnone]
  rfl

theorem holdsExactly_of_bindMarkers {s : BoundStatement} (hp : p.WellNamed)
    (h : bindMarkers p s.parameters = .ok b) : HoldsExactly p s.values b := by
  obtain ⟨hlength, hget⟩ := List.forall₂_iff_get.mp (bindMarkers_eq_ok h)
  have hcount : s.parameters.length = s.values.length := by simp [BoundStatement.parameters]
  have hentry : ∀ i (hi : i < b.length), p.NamedAt b[i].1 (Template.marker i) ∧
      s.values[i]?.map Sql.Value.ofJson = some b[i].2 := by
    intro i hi
    have hi' : i < s.parameters.length := hlength ▸ hi
    have hq := parameters_getElem? s i
    rw [List.getElem?_eq_getElem hi', List.getElem?_eq_getElem (hcount ▸ hi'), Option.map_some] at hq
    have hslot := hget i hi' hi
    simp only [List.get_eq_getElem, Option.some.inj hq] at hslot
    refine ⟨Parameters.namedAt_of_slot? hslot.1, ?_⟩
    rw [List.getElem?_eq_getElem (hcount ▸ hi'), Option.map_some, hslot.2]
  have honce : (b.map Prod.fst).Nodup := by
    rw [List.nodup_iff_injective_getElem]
    rintro ⟨i, hi⟩ ⟨j, hj⟩ he
    simp only [List.length_map, List.getElem_map] at hi hj he
    have hi' := (hentry i hi).1
    rw [he] at hi'
    have hname := Option.some.inj (Option.some.inj (hi'.symm.trans (hentry j hj).1))
    exact Fin.ext (Template.marker_injective hname)
  refine ⟨fun i v hv => ?_, honce, fun slot hslot hmem => ?_⟩
  · have hi : i < b.length := by
      rw [← hlength, hcount]
      exact (List.getElem?_eq_some_iff.mp hv).1
    obtain ⟨hname, hvalue⟩ := hentry i hi
    rw [hv, Option.map_some] at hvalue
    refine ⟨b[i].1, fun k => ⟨fun hk => hp.unique _ _ _ hk hname, fun hk => hk ▸ hname⟩, ?_⟩
    exact value_of_mem honce (Option.some.inj hvalue ▸ List.getElem_mem hi)
  · obtain ⟨x, hx, rfl⟩ := List.mem_map.mp hmem
    obtain ⟨i, hi, rfl⟩ := List.mem_iff_getElem.mp hx
    exact hslot i (by omega) (hentry i hi).1

theorem exists_bindMarkers_iff {s : BoundStatement} (hp : p.WellNamed) :
    (∃ b, bindMarkers p s.parameters = .ok b) ↔
      ∀ i < s.values.length, ∃ slot, p.NamedAt slot (Template.marker i) := by
  constructor
  · rintro ⟨b, h⟩ i hi
    obtain ⟨slot, hslot, -⟩ :=
      (holdsExactly_of_bindMarkers hp h).own i _ (List.getElem?_eq_getElem hi)
    exact ⟨slot, (hslot slot).mpr rfl⟩
  · intro h
    cases hb : bindMarkers p s.parameters with
    | ok b => exact ⟨b, rfl⟩
    | error e =>
      obtain ⟨i, q, hq, hnone, -, -⟩ := bindMarkers_eq_error hb
      rw [parameters_getElem?] at hq
      obtain ⟨v, hv, rfl⟩ := Option.map_eq_some_iff.mp hq
      obtain ⟨slot, hslot⟩ := h i (List.getElem?_eq_some_iff.mp hv).1
      exact absurd hslot (Parameters.slot?_eq_none_iff.mp hnone slot)

theorem missing_of_bindMarkers {s : BoundStatement} (h : bindMarkers p s.parameters = .error e) :
    ∃ i < s.values.length, e = .missingMarker (Template.marker i) ∧
      (∀ slot, ¬p.NamedAt slot (Template.marker i)) ∧
      ∀ j < i, ∃ slot, p.NamedAt slot (Template.marker j) := by
  obtain ⟨i, q, hq, hnone, rfl, hbefore⟩ := bindMarkers_eq_error h
  rw [parameters_getElem?] at hq
  obtain ⟨v, hv, rfl⟩ := Option.map_eq_some_iff.mp hq
  have hi := (List.getElem?_eq_some_iff.mp hv).1
  refine ⟨i, hi, rfl, Parameters.slot?_eq_none_iff.mp hnone, fun j hj => ?_⟩
  have hq' := parameters_getElem? s j
  rw [List.getElem?_eq_getElem (Nat.lt_trans hj hi), Option.map_some] at hq'
  have hsome := hbefore _ (List.mem_of_getElem? (List.getElem?_take_of_lt hj ▸ hq'))
  obtain ⟨slot, hslot⟩ := Option.ne_none_iff_exists'.mp hsome
  exact ⟨slot, Parameters.namedAt_of_slot? hslot⟩

end Binding

section Missing

variable {t : Template} {s : BoundStatement} {c c' : Connection} {m : String}

theorem bindMarkers_of_prepare {p : Prepared} {b : Bindings} (h : prepare c s = .ok (p, b)) :
    c.prepare s.sql = .ok p ∧ bindMarkers p.parameters s.parameters = .ok b := by
  obtain ⟨p', hp, h⟩ := Sql.bind_eq_ok h
  obtain ⟨b', hb, h⟩ := Sql.bind_eq_ok h
  obtain ⟨rfl, rfl⟩ := Prod.mk.inj (Except.ok.inj h)
  cases hc : c.prepare s.sql with
  | error f =>
    rw [hc] at hp
    cases hp
  | ok p =>
    rw [hc] at hp
    obtain rfl := Except.ok.inj hp
    exact ⟨rfl, hb⟩

theorem parse_of_prepare {p : Prepared} {text : String} (h : c.prepare text = .ok p) :
    ∃ st, Sql.parse text = .ok (st, p.parameters) := by
  obtain ⟨⟨st, ps⟩, hparse, h⟩ := Sql.bind_eq_ok h
  obtain ⟨a, -, h⟩ := Sql.bind_eq_ok h
  exact ⟨st, by rw [hparse, ← Except.ok.inj h]⟩

theorem prepare_of_unbound {p : Prepared} {e : StoreError} (hp : c.prepare s.sql = .ok p)
    (h : bindMarkers p.parameters s.parameters = .error e) : prepare c s = .error e := by
  simp [prepare, hp, h, Except.mapError, bind, Except.bind]

theorem unbound_of_prepare (h : prepare c s = .error (.missingMarker m)) :
    ∃ st ps, Sql.parse s.sql = .ok (st, ps) ∧
      bindMarkers ps s.parameters = .error (.missingMarker m) := by
  rw [prepare_eq] at h
  split at h
  · cases h
  · rename_i st ps hparse
    refine ⟨st, ps, hparse, ?_⟩
    split at h
    · cases h
    · cases hb : bindMarkers ps s.parameters with
      | ok b =>
        rw [hb] at h
        cases h
      | error e =>
        rw [hb] at h
        rw [Except.error.inj h]

theorem not_unbound_of_apply {row row' : Row} {n : Nat}
    (h : (apply c (Plan.bind t.plan row)).1 = .ok n) :
    prepare c' (Plan.bind t.plan row') ≠ .error (.missingMarker m) := by
  intro hmissing
  obtain ⟨st, ps, hparse, hunbound⟩ := unbound_of_prepare hmissing
  have hbound : ∃ p b, prepare c (Plan.bind t.plan row) = .ok (p, b) := by
    unfold apply at h
    split at h
    · cases h
    · rename_i p b hp
      exact ⟨p, b, hp⟩
  obtain ⟨p, b, hp⟩ := hbound
  obtain ⟨hprepared, hb⟩ := bindMarkers_of_prepare hp
  obtain ⟨st', hparse'⟩ := parse_of_prepare hprepared
  obtain ⟨rfl, rfl⟩ := Prod.mk.inj (Except.ok.inj (hparse'.symm.trans hparse))
  have hnamed := (exists_bindMarkers_iff (Parameters.wellNamed_of_parse hparse')).mp ⟨b, hb⟩
  have hcount : (Plan.bind t.plan row').values.length = (Plan.bind t.plan row).values.length := by
    simp only [Plan.bind, List.length_map]
  obtain ⟨i, hi, -, hnone, -⟩ := missing_of_bindMarkers hunbound
  obtain ⟨slot, hslot⟩ := hnamed i (hcount ▸ hi)
  exact hnone slot hslot

theorem begun_ne_missing (st : Store) : st.begun ≠ .error (.missingMarker m) := by
  intro h
  unfold Store.begun Store.connect at h
  split at h
  · rename_i hconnect
    split at hconnect <;> cases hconnect
    cases h
  · split at h <;> cases h

theorem missing_at_first_row {b : Batch} {st : Store} {j : Journal} {e : ExecutionError}
    (h : (execute t b st j).1 = .error e) (he : e.cause = .missingMarker m) :
    e = .rowFailed 1 (.missingMarker m) ∧ (execute t b st j).2.1 = st := by
  rcases execute_cases t b st j with ⟨x, hbegun, hx⟩ |
    ⟨c, pre, r, rest, counts, c₁, x, c₂, -, -, hs, hf, hx⟩ |
    ⟨c, counts, c₁, -, -, -, hx⟩ | ⟨c, counts, c₁, -, -, -, hx⟩
  · rw [hx] at h
    obtain rfl := Except.error.inj h
    obtain rfl : x = .missingMarker m := he
    exact absurd hbegun (begun_ne_missing st)
  · rw [hx] at h
    obtain rfl := Except.error.inj h
    obtain rfl : x = .missingMarker m := he
    have hmissing : prepare c₁ (Plan.bind t.plan r) = .error (.missingMarker m) := by
      unfold apply at hf
      split at hf
      · rename_i e hp
        rw [hp, Except.error.inj (Prod.mk.inj hf).1]
      · split at hf <;> cases (Prod.mk.inj hf).1
    -- a row that succeeded before would have had the same markers
    cases hs with
    | nil => exact ⟨rfl, by rw [hx]⟩
    | cons hrow _ => exact absurd hmissing (not_unbound_of_apply (congrArg Prod.fst hrow))
  · rw [hx] at h
    obtain rfl := Except.error.inj h
    cases he
  · rw [hx] at h
    cases h

end Missing

end Engine

namespace Template

open Engine

/-- A marker is bound where the first statement of the text has it for a parameter. Binding succeeds just
if all markers are, and then every marker's one slot has the marker's own value, and no other slot has
any. Otherwise the first marker that is missing is told, and nothing is run: of a batch this can only
happen to the first row, and the store is as it was. -/
theorem markers_bound_exactly (t : Template) :
    (∀ (row : Row) (c : Sql.Connection) (p : Sql.Prepared), c.prepare (t.parse row).sql = .ok p →
      (∀ i, (∃ slot, p.parameters.NamedAt slot (marker i)) ↔
        ∃ l ∈ (Sql.Source.first (t.parse row).sql).lexemes, l.token = .parameter (marker i)) ∧
      ((∃ b, bindMarkers p.parameters (t.parse row).parameters = .ok b) ↔
        ∀ i < Plan.occurrences t.plan, ∃ slot, p.parameters.NamedAt slot (marker i)) ∧
      (∀ b, bindMarkers p.parameters (t.parse row).parameters = .ok b →
        HoldsExactly p.parameters (t.parse row).values b) ∧
      ∀ e, bindMarkers p.parameters (t.parse row).parameters = .error e →
        (∃ i < Plan.occurrences t.plan, e = .missingMarker (marker i) ∧
          (∀ slot, ¬p.parameters.NamedAt slot (marker i)) ∧
          ∀ j < i, ∃ slot, p.parameters.NamedAt slot (marker j)) ∧
        apply c (t.parse row) = (.error e, c) ∧
        ∀ st : Store, st.connect = .ok c → query t row st = (.error (.store e), st)) ∧
    ∀ (b : Batch) (st : Store) (j : Journal) (e : ExecutionError) (m : String),
      (execute t b st j).1 = .error e → e.cause = .missingMarker m →
        e = .rowFailed 1 (.missingMarker m) ∧ (execute t b st j).2.1 = st := by
  refine ⟨fun row c p hp => ?_, fun b st j e m h he => missing_at_first_row h he⟩
  obtain ⟨st, hparse⟩ := parse_of_prepare hp
  have hnamed := Sql.Parameters.wellNamed_of_parse hparse
  have hcount : Plan.occurrences t.plan = (t.parse row).values.length := by
    rw [occurrences_eq_length]
    simp [parse, Plan.bind]
  refine ⟨fun i => Sql.Parameters.namedAt_of_parse hparse (not_numbered_marker i), ?_,
    fun b hb => holdsExactly_of_bindMarkers hnamed hb, fun e he => ⟨?_, ?_, fun st hst => ?_⟩⟩
  · rw [hcount]
    exact exists_bindMarkers_iff hnamed
  · rw [hcount]
    exact missing_of_bindMarkers he
  · simp only [apply, prepare_of_unbound hp he]
  · have hkept : st.closing c = st := by
      rw [Store.closing_eq, (Store.connect_atRest hst).1, Store.keeping_tables]
    have hunbound : prepare c (Plan.bind t.plan row) = .error e := prepare_of_unbound hp he
    simp only [query, hst, hunbound, hkept]

end Template

end EndpointGate
