import EndpointGate.Proofs.EndpointStore

/-! The two registries side by side. A store lives through calls, openings and other work; as long as
nothing else touches its table of endpoints it answers what a registry in memory answers to the same
calls, the times of registrations apart. -/

namespace EndpointGate

inductive StoreUse
  | script (text : String)
  | batch (t : Template) (b : Batch) (j : Journal)
  | read (t : Template) (fields : Row)

namespace Store

def after (s : Store) : StoreUse → Store
  | .script text => (s.runScript text).2
  | .batch t b j => (Engine.execute t b s j).2.1
  | .read t fields => (Engine.query t fields s).2

/-- How a store is used, with the calls to its registry and their answers: it is opened, called, opened
again, and worked on in ways that leave the table of endpoints as it is. -/
inductive Lives (first : Store) : List (RegistryCall × RegistryAnswer) → Store → Prop
  | opened : Lives first [] first.open?.2
  | called {h : List (RegistryCall × RegistryAnswer)} {s : Store} (c : RegistryCall) :
      Lives first h s → Lives first (h ++ [(c, (Registry.inStore.answer { store := s } c).1)])
        (Registry.inStore.answer { store := s } c).2.store
  | reopened {h : List (RegistryCall × RegistryAnswer)} {s : Store} :
      Lives first h s → Lives first h s.open?.2
  | worked {h : List (RegistryCall × RegistryAnswer)} {s : Store} (u : StoreUse) : Lives first h s →
      (s.after u).tables.find? EndpointTable.name = s.tables.find? EndpointTable.name →
      Lives first h (s.after u)

variable {s : Store} {ds : List Definition}

theorem after_kept {P : Sql.Database → Prop} (hP : Sql.Database.Kept P) (h : P s.tables) (u : StoreUse) :
    P (s.after u).tables := by
  cases u with
  | script text => exact runScript_kept hP h text
  | batch t b j => exact Engine.execute_kept hP h t b j
  | read t fields => exact Engine.query_kept hP h t fields

theorem after_cases (s : Store) (u : StoreUse) : s.after u = s ∨ ∃ c, s.after u = s.closing c := by
  cases u with
  | script text =>
    simp only [after, runScript]
    cases s.connect with
    | error e => exact Or.inl rfl
    | ok c => exact Or.inr ⟨_, rfl⟩
  | batch t b j =>
    simp only [after, Engine.execute]
    cases s.connect with
    | error e => exact Or.inl rfl
    | ok c =>
      refine Or.inr ?_
      simp only
      split
      · exact ⟨_, rfl⟩
      · split
        · exact ⟨(Engine.abandon _ j).1, rfl⟩
        · split <;> exact ⟨_, rfl⟩
  | read t fields =>
    simp only [after, Engine.query]
    cases s.connect with
    | error e => exact Or.inl rfl
    | ok c =>
      refine Or.inr ?_
      simp only
      split
      · exact ⟨_, rfl⟩
      · split <;> exact ⟨_, rfl⟩

theorem Keeps.after (h : s.Keeps ds) (u : StoreUse) (hsame : (s.after u).tables.find? EndpointTable.name =
    s.tables.find? EndpointTable.name) : (s.after u).Keeps ds := by
  have hkept : (s.after u).lock = s.lock ∧ (s.after u).medium = .database (s.after u).tables := by
    rcases s.after_cases u with hw | ⟨c, hw⟩
    · rw [hw]
      exact ⟨rfl, h.database⟩
    · rw [hw]
      obtain ⟨hmedium, htables, hlock⟩ := tables_closing h.database c
      exact ⟨hlock, hmedium.trans (congrArg _ htables.symm)⟩
  exact ⟨hkept.1.trans h.unlocked, hkept.2, hsame.trans h.endpoints,
    after_kept Sql.Database.namesApart_kept h.apart u⟩

end Store

section Times

def RegistryCall.Timely : RegistryCall → Prop
  | .register now _ => Timestamp.isValid now = true
  | _ => True

def Definition.timeless (d : Definition) : Definition := { d with createdAt := "" }

def RegistryCall.timeless : RegistryCall → RegistryCall
  | .register _ r => .register "" r
  | c => c

def RegistryAnswer.timeless : RegistryAnswer → RegistryAnswer
  | .registered id => .registered id
  | .resolved found => .resolved (found.map (Option.map Definition.timeless))
  | .listed ds => .listed (ds.map (List.map Definition.timeless))

theorem timely_recorded {calls : List RegistryCall} (h : ∀ c ∈ calls, c.Timely) :
    ∀ d ∈ recorded calls, Timestamp.isValid d.createdAt = true := by
  intro d hd
  obtain ⟨now, r, id, hmem, -, rfl⟩ := registration_of_mem_recorded hd
  exact h _ hmem

theorem timeless_recorded (calls : List RegistryCall) :
    (recorded calls).map Definition.timeless = recorded (calls.map RegistryCall.timeless) := by
  have haccepted : ∀ c : RegistryCall, c.timeless.accepted? = c.accepted?.map fun p => ("", p.2) := by
    intro c
    cases c with
    | register now r => cases hm : r.missing? <;> simp [RegistryCall.timeless, RegistryCall.accepted?, hm]
    | resolve | list => rfl
  rw [recorded, recorded, List.filterMap_map]
  simp only [Function.comp_def, haccepted, ← List.map_filterMap]
  apply List.ext_getElem?
  intro n
  simp only [List.getElem?_map, List.getElem?_mapIdx, Option.map_map]
  rfl

theorem timeless_answerAmong (c : RegistryCall) (ds : List Definition) :
    (c.answerAmong ds).timeless = c.timeless.answerAmong (ds.map Definition.timeless) := by
  cases c with
  | register now r => simp [RegistryCall.answerAmong, RegistryCall.timeless, RegistryAnswer.timeless]
  | resolve key credential =>
    simp only [RegistryCall.answerAmong, RegistryCall.timeless, RegistryAnswer.timeless, Except.map,
      List.find?_map]
    rfl
  | list => rfl

end Times

def answersTo (calls : List RegistryCall) : List RegistryAnswer :=
  calls.mapIdx fun n c => c.answerAmong (recorded (calls.take n))

theorem answersTo_concat (calls : List RegistryCall) (c : RegistryCall) :
    answersTo (calls ++ [c]) = answersTo calls ++ [c.answerAmong (recorded calls)] := by
  rw [answersTo, List.mapIdx_concat, List.take_left, answersTo]
  congr 1
  rw [List.mapIdx_eq_mapIdx_iff]
  intro n hn
  rw [List.take_append_of_le_length (Nat.le_of_lt hn)]

theorem timeless_answersTo (calls : List RegistryCall) :
    (answersTo calls).map RegistryAnswer.timeless = answersTo (calls.map RegistryCall.timeless) := by
  apply List.ext_getElem?
  intro n
  simp only [answersTo, List.getElem?_map, List.getElem?_mapIdx, Option.map_map, Function.comp_def,
    timeless_answerAmong, timeless_recorded, List.map_take]

namespace Store

variable {s : Store} {calls : List RegistryCall} {r : Registration}

theorem register_of_lacking {field : RegistrationField} (hm : r.missing? = some field) (now : String) :
    s.register now r = (.error (.missingField field), s) := by
  simp only [Store.register, r.normalize_eq, hm]

theorem register_of_filled (hm : r.missing? = none) (now : String) :
    s.register now r =
      ((s.addDefinition now { r with method := Text.upperAscii (Text.trim r.method) }).1.mapError .store,
        (s.addDefinition now { r with method := Text.upperAscii (Text.trim r.method) }).2) := by
  simp only [Store.register, r.normalize_eq, hm]

theorem Keeps.register {ds : List Definition} (h : s.Keeps ds) (hn : Numbered ds)
    (hroom : (ds.length : Int) < Sql.Value.greatestInteger) (hm : r.missing? = none) (now : String) :
    (s.register now r).1 = .ok (ds.length + 1) ∧
      (s.register now r).2.Keeps (ds ++ [r.definition (ds.length + 1) now]) := by
  let d := r.definition (ds.length + 1) now
  obtain ⟨hid, hkept⟩ := h.addDefinition hn hroom (rfl : d.id = _)
  rw [register_of_filled hm]
  exact ⟨congrArg (Except.mapError RegistryError.store) hid, hkept⟩

theorem Keeps.answer (h : s.Keeps (recorded calls)) (htimes : ∀ c ∈ calls, c.Timely)
    (c : RegistryCall) (hc : c.Timely)
    (hroom : ((recorded (calls ++ [c])).length : Int) ≤ Sql.Value.greatestInteger) :
    (Registry.inStore.answer { store := s } c).1 = c.answerAmong (recorded calls) ∧
      (Registry.inStore.answer { store := s } c).2.store.Keeps (recorded (calls ++ [c])) := by
  have hn := numbered_recorded calls
  have htimes := timely_recorded htimes
  cases c with
  | register now r =>
    cases hm : r.missing? with
    | some field =>
      rw [recorded_concat_of_refused (by simp [RegistryCall.accepted?, hm])]
      simp only [Registry.answer, Registry.inStore, register_of_lacking hm, RegistryCall.answerAmong, hm]
      exact ⟨trivial, h⟩
    | none =>
      rw [recorded_concat_register hm] at hroom ⊢
      rw [List.length_append, List.length_singleton] at hroom
      obtain ⟨hid, hkept⟩ := h.register hn (by omega) hm now
      simp only [Registry.answer, Registry.inStore, RegistryCall.answerAmong, hm]
      exact ⟨congrArg RegistryAnswer.registered hid, hkept⟩
  | resolve key credential =>
    rw [recorded_concat_of_refused rfl]
    exact ⟨congrArg RegistryAnswer.resolved (h.resolve hn htimes key credential), h⟩
  | list =>
    rw [recorded_concat_of_refused rfl]
    exact ⟨congrArg RegistryAnswer.listed (h.list hn htimes), h⟩

theorem Lives.keeps {first : Store} {h : List (RegistryCall × RegistryAnswer)}
    (hlife : Lives first h s) (hm : first.medium = .database []) (hl : first.lock = none)
    (htimes : ∀ c ∈ h.map Prod.fst, c.Timely)
    (hroom : ((recorded (h.map Prod.fst)).length : Int) ≤ Sql.Value.greatestInteger) :
    h.map Prod.snd = answersTo (h.map Prod.fst) ∧ s.Keeps (recorded (h.map Prod.fst)) := by
  induction hlife with
  | opened => exact ⟨rfl, (keeps_of_open hm hl).2⟩
  | @called h s c hlife ih =>
    simp only [List.map_append, List.map_cons, List.map_nil] at htimes hroom ⊢
    rw [List.forall_mem_append, List.forall_mem_singleton] at htimes
    -- numbers that last for all calls last for those before
    have hgrown : (recorded (h.map Prod.fst)).length ≤ (recorded (h.map Prod.fst ++ [c])).length := by
      simp [recorded_append]
    obtain ⟨hanswers, hkeeps⟩ := ih htimes.1 (by omega)
    obtain ⟨hanswer, hkept⟩ := hkeeps.answer htimes.1 c htimes.2 hroom
    rw [answersTo_concat, hanswers, hanswer]
    exact ⟨rfl, hkept⟩
  | reopened hlife ih =>
    obtain ⟨hanswers, hkeeps⟩ := ih htimes hroom
    rw [hkeeps.open_eq]
    exact ⟨hanswers, hkeeps⟩
  | worked u hlife hsame ih =>
    obtain ⟨hanswers, hkeeps⟩ := ih htimes hroom
    exact ⟨hanswers, hkeeps.after u hsame⟩

end Store

/-- A store that started with no tables answers, through all openings and whatever else is done with it,
as a registry in memory answers the same calls, the times apart; and it opens at any time. -/
theorem registries_agree {path : String} {h : List (RegistryCall × RegistryAnswer)} {s : Store}
    (hlife : Store.Lives { path, medium := .database [] } h s)
    (htimes : ∀ c ∈ h.map Prod.fst, c.Timely)
    (hroom : ((recorded (h.map Prod.fst)).length : Int) ≤ Sql.Value.greatestInteger)
    {calls : List RegistryCall}
    (hsame : calls.map RegistryCall.timeless = (h.map Prod.fst).map RegistryCall.timeless)
    (other : Store) :
    (h.map Prod.snd).map RegistryAnswer.timeless =
        (Registry.inMemory.answers { store := other } calls).1.map RegistryAnswer.timeless ∧
      s.open? = (.ok (), s) := by
  obtain ⟨hanswers, hkeeps⟩ := hlife.keeps rfl rfl htimes hroom
  have hmemory : (Registry.inMemory.answers { store := other } calls).1 = answersTo calls :=
    congrArg Prod.fst (Memory.answers_recorded [] calls other)
  refine ⟨?_, hkeeps.open_eq⟩
  rw [hanswers, hmemory, timeless_answersTo, timeless_answersTo, hsame]

theorem registries_agree_duplicate :
    let now := "2024-01-01 00:00:00+00:00"
    let older : Registration := ⟨"items", " post ", "k1", "SELECT 1"⟩
    let newer : Registration := ⟨"items", "POST", "k1", "SELECT 2"⟩
    let unnamed : Registration := ⟨" ", "GET", "k1", "SELECT 3"⟩
    let key := EndpointKey.of "items" "post"
    ∃ h s, Store.Lives { path := "gate.db", medium := .database [] } h s ∧
      h.map Prod.fst = [.register now older, .register now newer, .register now unnamed,
        .resolve key "k1", .list] ∧
      (h.map Prod.snd).map RegistryAnswer.timeless =
        (Registry.inMemory.answers { store := { path := "other.db", medium := .fleeting } }
          [.register "" older, .register "" newer, .register "" unnamed, .resolve key "k1",
            .list]).1.map RegistryAnswer.timeless ∧
      s.open? = (.ok (), s) := by
  intro now older newer unnamed key
  have hnow : Timestamp.isValid now = true := by decide +kernel
  obtain ⟨h, s, hlife, hasked⟩ : ∃ h s,
      Store.Lives { path := "gate.db", medium := .database [] } h s ∧ h.map Prod.fst =
        [.register now older, .register now newer, .register now unnamed, .resolve key "k1", .list] :=
    ⟨_, _, .called .list (.called (.resolve key "k1") (.called (.register now unnamed)
      (.called (.register now newer) (.reopened (.called (.register now older) .opened))))), rfl⟩
  refine ⟨h, s, hlife, hasked, registries_agree hlife ?_ ?_ (by rw [hasked]; rfl) _⟩
  · rw [hasked]
    simp [RegistryCall.Timely, hnow]
  · rw [hasked]
    decide +kernel

end EndpointGate
