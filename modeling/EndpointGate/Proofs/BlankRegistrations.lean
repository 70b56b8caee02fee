import EndpointGate.Proofs.FailureAnswers
import EndpointGate.Proofs.KeptRegistrations

/-! Registrations with a blank field. One that lacks its name, its method or its template, or that has an
empty credential, is refused before anything is touched. So what a registry keeps has something to read in
each of these fields; only a credential may be of blanks, and only where a registration brought it. -/

namespace EndpointGate

namespace Text

def Filled (s : String) : Prop := ∃ c ∈ s.toList, isBlank c = false

theorem allBlank_eq_false_iff {s : String} : allBlank s = false ↔ Filled s := by
  simp [allBlank, Filled]

theorem mem_dropWhile {α : Type} {p : α → Bool} {l : List α} {a : α} (h : a ∈ l) (hp : p a = false) :
    a ∈ l.dropWhile p := by
  rw [← List.takeWhile_append_dropWhile (p := p) (l := l)] at h
  rcases List.mem_append.mp h with htaken | hleft
  · have htrue := List.mem_takeWhile_imp htaken
    rw [hp] at htrue
    cases htrue
  · exact hleft

theorem Filled.trim {s : String} (h : Filled s) : Filled (trim s) := by
  obtain ⟨c, hc, hfilled⟩ := h
  have hfront := mem_dropWhile hc hfilled
  have hback := mem_dropWhile (List.mem_reverse.mpr hfront) hfilled
  exact ⟨c, by simpa [Text.trim] using List.mem_reverse.mpr hback, hfilled⟩

theorem isBlank_of_isUpper {c : Char} (h : c.isUpper = true) : isBlank c = false := by
  have hspace : (c == ' ') = false := by
    rw [beq_eq_false_iff_ne]
    rintro rfl
    cases h
  simp only [Char.isUpper, decide_eq_true_eq, ge_iff_le, UInt32.le_iff_toNat_le] at h
  have hlow : 65 ≤ c.toNat := h.1
  have hhigh : c.toNat ≤ 90 := h.2
  simp only [isBlank, hspace, Bool.or_eq_false_iff, Bool.and_eq_false_iff, decide_eq_false_iff_not,
    beq_eq_false_iff_ne, ne_eq, true_and]
  omega

theorem isBlank_toUpper {c : Char} (h : isBlank c = false) : isBlank c.toUpper = false := by
  by_cases hlower : c.isLower = true
  · have hupper : c.toUpper.isUpper = true := by simp [Char.isAlpha, hlower]
    exact isBlank_of_isUpper hupper
  · rwa [Char.toUpper_eq_of_not_isLower hlower]

theorem Filled.upperAscii {s : String} (h : Filled s) : Filled (upperAscii s) := by
  obtain ⟨c, hc, hfilled⟩ := h
  exact ⟨c.toUpper, by simpa [Text.upperAscii] using ⟨c, hc, rfl⟩, isBlank_toUpper hfilled⟩

end Text

namespace Registration

variable {r : Registration} {field : RegistrationField}

def text (r : Registration) : RegistrationField → String
  | .endpointName => r.endpointName
  | .method => r.method
  | .credential => r.credential
  | .sqlTemplate => r.sqlTemplate

theorem lacks_iff : r.lacks field = true ↔
    Text.allBlank (r.text field) = true ∧ (field = .credential → r.credential = "") := by
  cases field <;> simp [lacks, text]
  intro h
  rw [h]
  rfl

theorem lacks_of_missing (h : r.missing? = some field) : r.lacks field = true :=
  List.find?_some h

theorem missing_of_lacks (h : r.lacks field = true) : ∃ first, r.missing? = some first := by
  have hsome : ([.endpointName, .method, .credential, .sqlTemplate].find? r.lacks).isSome :=
    List.find?_isSome.mpr ⟨field, by cases field <;> simp, h⟩
  exact Option.isSome_iff_exists.mp hsome

theorem not_lacks_of_missing_none (h : r.missing? = none) (field : RegistrationField) :
    r.lacks field = false := by
  have hnone := List.find?_eq_none.mp h field (by cases field <;> simp)
  simpa using hnone

end Registration

def RegistryCall.added? : RegistryCall × RegistryAnswer → Option Definition
  | (.register now r, .registered (.ok id)) => some (r.definition id now)
  | _ => none

def accepted (history : List (RegistryCall × RegistryAnswer)) : List Definition :=
  history.filterMap RegistryCall.added?

theorem accepted_concat (history : List (RegistryCall × RegistryAnswer))
    (p : RegistryCall × RegistryAnswer) :
    accepted (history ++ [p]) = accepted history ++ (RegistryCall.added? p).toList := by
  rw [accepted, List.filterMap_append]
  cases h : RegistryCall.added? p <;> simp [accepted, h]

theorem mem_accepted {history : List (RegistryCall × RegistryAnswer)} {d : Definition}
    (h : d ∈ accepted history) :
    ∃ now r id, Registered now r id ∈ history ∧ d = r.definition id now := by
  obtain ⟨⟨c, a⟩, hmem, hadded⟩ := List.mem_filterMap.mp h
  unfold RegistryCall.added? at hadded
  split at hadded
  · next now r id heq =>
    obtain ⟨rfl, rfl⟩ := Prod.mk.inj heq
    exact ⟨now, r, id, hmem, (Option.some.inj hadded).symm⟩
  · cases hadded

namespace Registry

variable {registry : Registry} {r : Registration} {field : RegistrationField} {h : Holdings}
  {ds : List Definition}

theorem IsOwn.register_of_lacking (hown : registry.IsOwn) (hm : r.missing? = some field) (now : String)
    (h : Holdings) : registry.register now r h = (.error (.missingField field), h) := by
  rcases hown with rfl | rfl
  · simp only [inStore, Store.register_of_lacking hm]
  · simp only [inMemory, Memory.register, r.normalize_eq, hm]

theorem Keeps.answer_added (hkeeps : registry.Keeps h ds) (hown : registry.IsOwn) (c : RegistryCall) :
    registry.Keeps (registry.answer h c).2
      (ds ++ (RegistryCall.added? (c, (registry.answer h c).1)).toList) := by
  cases c with
  | resolve | list => simpa [RegistryCall.added?, Registry.answer] using hkeeps
  | register now r =>
    cases hm : r.missing? with
    | some field => simpa [RegistryCall.added?, Registry.answer, hown.register_of_lacking hm] using hkeeps
    | none =>
      cases hkeeps with
      | inMemory =>
        have hadded : Memory.register now r h.definitions =
            (.ok (Memory.nextId h.definitions), Memory.add now { r with
              method := Text.upperAscii (Text.trim r.method) } h.definitions) := by
          simp only [Memory.register, r.normalize_eq, hm]
        simp only [RegistryCall.added?, Registry.answer, Registry.inMemory, hadded]
        exact .inMemory
      | inStore hstore hn =>
        by_cases hroom : (ds.length : Int) < Sql.Value.greatestInteger
        · obtain ⟨hid, hkept⟩ := hstore.register hn hroom hm now
          simp only [RegistryCall.added?, Registry.answer, Registry.inStore, hid]
          exact .inStore hkept (hn.concat rfl)
        · -- the numbers have run out: the answer is an error and the store stays as it is
          have hfull : Registry.inStore.register now r h = (.error (.store (.sql .datatypeMismatch)), h) := by
            simp only [Registry.inStore, Store.register_of_filled hm, hstore.addDefinition_full hn hroom,
              Except.mapError]
          simpa [RegistryCall.added?, Registry.answer, hfull] using Keeps.inStore hstore hn

theorem Keeps.reopen (hkeeps : registry.Keeps h ds) :
    registry.Keeps { h with store := h.store.open?.2 } ds := by
  cases hkeeps with
  | inMemory => exact .inMemory
  | inStore hstore hn => exact .inStore (by rwa [hstore.open_eq]) hn

theorem Keeps.after (hkeeps : registry.Keeps h ds) (u : StoreUse)
    (hsame : registry = Registry.inStore → (h.store.after u).tables.find? EndpointTable.name =
      h.store.tables.find? EndpointTable.name) :
    registry.Keeps { h with store := h.store.after u } ds := by
  cases hkeeps with
  | inMemory => exact .inMemory
  | inStore hstore hn => exact .inStore (hstore.after u (hsame rfl)) hn

theorem Lives.keeps_accepted {path : String} {history : List (RegistryCall × RegistryAnswer)}
    (hlife : registry.Lives path history h) (hown : registry.IsOwn) :
    registry.Keeps h (accepted history) := by
  induction hlife with
  | opened =>
    rcases hown with rfl | rfl
    · have hnone : ∀ s : Store, s.Keeps [] → Registry.inStore.Keeps { store := s } [] :=
        fun s hs => .inStore hs fun n hn => by cases hn
      exact hnone _ (Store.keeps_of_open (s := { path, medium := .database [] }) rfl rfl).2
    · exact .inMemory
  | called c hlife ih =>
    rw [accepted_concat]
    exact ih.answer_added hown c
  | reopened hlife ih => exact ih.reopen
  | worked u hlife hsame ih => exact ih.after u hsame

end Registry

section Refusals

variable {registry : Registry} {r : Registration}

/-- The registration is refused for a blank field, by the registry and by the gateway, and nothing is
changed by it: not what is held, not the counters and not the log. -/
def Gateway.RefusesBlank (g : Gateway) (now : String) (r : Registration) (s : Running) : Prop :=
  ∃ field, Text.allBlank (r.text field) = true ∧
    g.registry.register now r s.holdings = (.error (.missingField field), s.holdings) ∧
    g.register now r s = (.error (.malformedRequest ("Missing required field: " ++ field.name)), s)

theorem Gateway.refusesBlank_iff {g : Gateway} (hown : g.registry.IsOwn) (now : String) (r : Registration)
    (s : Running) : g.RefusesBlank now r s ↔ ∃ field, r.lacks field = true := by
  constructor
  · rintro ⟨field, -, hregister, -⟩
    exact ⟨field, Registration.lacks_of_missing (hown.missing (congrArg Prod.fst hregister))⟩
  · rintro ⟨field, hlacks⟩
    obtain ⟨first, hm⟩ := Registration.missing_of_lacks hlacks
    have hregister := hown.register_of_lacking hm now s.holdings
    have hblank := (Registration.lacks_iff.mp (Registration.lacks_of_missing hm)).1
    refine ⟨first, hblank, hregister, ?_⟩
    simp only [Gateway.register, hregister]
    rfl

theorem Registration.definition_filled (hm : r.missing? = none) (id : Int) (now : String) :
    let d := r.definition id now
    Text.Filled d.name ∧ Text.Filled d.method ∧ Text.Filled d.sqlTemplate ∧ d.credential ≠ "" := by
  have hname : Text.Filled r.endpointName :=
    Text.allBlank_eq_false_iff.mp (not_lacks_of_missing_none hm .endpointName)
  have hmethod : Text.Filled r.method :=
    Text.allBlank_eq_false_iff.mp (not_lacks_of_missing_none hm .method)
  have htemplate : Text.Filled r.sqlTemplate :=
    Text.allBlank_eq_false_iff.mp (not_lacks_of_missing_none hm .sqlTemplate)
  have hcredential : r.credential ≠ "" := by
    intro hempty
    have hlacks := not_lacks_of_missing_none hm .credential
    simp [lacks, hempty] at hlacks
  exact ⟨hname, hmethod.trim.upperAscii, htemplate, hcredential⟩

/-- A registration is refused as blank, and changes nothing, exactly if its name, its method or its template
is blank or its credential is empty. So whatever life a registry has had, the definitions that it keeps have
something to read in these three fields and a credential; and the credential has, unless one of blanks only
was registered. -/
theorem blank_registrations (hown : registry.IsOwn) :
    (∀ (catalog : Catalog) (now : String) (r : Registration) (s : Running),
      (⟨registry, catalog⟩ : Gateway).RefusesBlank now r s ↔
        ∃ field, Text.allBlank (r.text field) = true ∧ (field = .credential → r.credential = "")) ∧
    ∀ (path : String) (history : List (RegistryCall × RegistryAnswer)) (h : Holdings),
      registry.Lives path history h → registry.Keeps h (accepted history) ∧
        ∀ d ∈ accepted history,
          Text.Filled d.name ∧ Text.Filled d.method ∧ Text.Filled d.sqlTemplate ∧ d.credential ≠ "" ∧
          ((∀ now r id, Registered now r id ∈ history → Text.Filled r.credential ∨ r.credential = "") →
            Text.Filled d.credential) := by
  refine ⟨fun catalog now r s => ?_,
    fun path history h hlife => ⟨hlife.keeps_accepted hown, fun d hd => ?_⟩⟩
  · rw [Gateway.refusesBlank_iff hown]
    exact exists_congr fun field => Registration.lacks_iff
  · obtain ⟨now, r, id, hreg, rfl⟩ := mem_accepted hd
    obtain ⟨ds, -, hmissing⟩ := hlife.keeps hown
    obtain ⟨hname, hmethod, htemplate, hcredential⟩ :=
      Registration.definition_filled (hmissing now r id hreg).1 id now
    refine ⟨hname, hmethod, htemplate, hcredential, fun hfilled => ?_⟩
    rcases hfilled now r id hreg with h | hempty
    · exact h
    · exact absurd hempty hcredential

theorem blank_registrations_unicode :
    let blank : Registration := ⟨"\u3000\u2003\t", "POST", " ", "SELECT 1"⟩
    let filled : Registration := ⟨"items", "\u00a0post\n", "k1", "SELECT 1"⟩
    let empty : Registration := ⟨"items", "POST", "", "SELECT 1"⟩
    let start : Holdings := { store := (Store.open? { path := "gate.db", medium := .database [] }).2 }
    Registry.inStore.IsOwn ∧ Registry.inMemory.IsOwn ∧
      (⟨.inStore, .empty⟩ : Gateway).RefusesBlank "today" blank { holdings := start, journal := {} } ∧
      ∃ held, Registry.inMemory.Lives "gate.db" [Registered "today" filled 1,
          (.register "today" empty, .registered (.error (.missingField .credential)))] held ∧
        Registry.inMemory.Keeps held [⟨1, "items", "POST", "k1", "SELECT 1", "today"⟩] ∧
        Text.Filled "items" ∧ Text.Filled "POST" ∧ Text.Filled "SELECT 1" ∧ Text.Filled "k1" := by
  intro blank filled empty start
  refine ⟨.inl rfl, .inr rfl, ?_, ?_⟩
  · exact ((blank_registrations (.inl rfl)).1 .empty "today" blank _).mpr
      ⟨.endpointName, by decide +kernel, fun h => by cases h⟩
  have hkept : ∀ s : Store, Registry.inMemory.answer { store := s } (.register "today" filled) =
      (.registered (.ok 1),
        { store := s, definitions := [⟨1, "items", "POST", "k1", "SELECT 1", "today"⟩] }) := by
    intro s
    have hm : filled.missing? = none := by decide +kernel
    have hmethod : Text.upperAscii (Text.trim filled.method) = "POST" := by decide +kernel
    simp only [Registry.answer, Registry.inMemory, Memory.register, filled.normalize_eq, hm, hmethod]
    rfl
  have hrefused : ∀ held, Registry.inMemory.answer held (.register "today" empty) =
      (.registered (.error (.missingField .credential)), held) := by
    intro held
    have hm : empty.missing? = some .credential := by decide +kernel
    simp only [Registry.answer, Registry.IsOwn.register_of_lacking (.inr rfl) hm]
  have hlife := (Registry.Lives.opened : Registry.inMemory.Lives "gate.db" _ _).called
    (.register "today" filled) |>.called (.register "today" empty)
  rw [hkept, hrefused] at hlife
  change Registry.Lives _ _ [Registered "today" filled 1, _] _ at hlife
  obtain ⟨hkeeps, hfilled⟩ := (blank_registrations (.inr rfl)).2 _ _ _ hlife
  have hdefinition : accepted [Registered "today" filled 1,
      (.register "today" empty, .registered (.error (.missingField .credential)))] =
      [⟨1, "items", "POST", "k1", "SELECT 1", "today"⟩] := by decide +kernel
  rw [hdefinition] at hkeeps hfilled
  obtain ⟨hname, hmethod, htemplate, -, hcredential⟩ := hfilled _ (List.mem_singleton.mpr rfl)
  refine ⟨_, hlife, hkeeps, hname, hmethod, htemplate, hcredential fun now r id hreg => .inl ?_⟩
  rcases List.mem_cons.mp hreg with hfirst | hlast
  · obtain ⟨hcall, -⟩ := Prod.mk.inj hfirst
    obtain ⟨-, rfl⟩ := RegistryCall.register.inj hcall
    exact Text.allBlank_eq_false_iff.mp (by decide +kernel)
  · cases congrArg Prod.snd (List.mem_singleton.mp hlast)

/-- A credential of one blank is accepted and kept by both registries. -/
theorem blank_credential_kept :
    let spaced : Registration := ⟨"t", "POST", " ", "SELECT 1"⟩
    let kept : Definition := ⟨1, "t", "POST", " ", "SELECT 1", "today"⟩
    let start : Holdings := { store := (Store.open? { path := "gate.db", medium := .database [] }).2 }
    Text.allBlank (spaced.text .credential) = true ∧
      ((Registry.inMemory.register "today" spaced start).1 = .ok 1 ∧
        Registry.inMemory.Keeps (Registry.inMemory.register "today" spaced start).2 [kept]) ∧
      (Registry.inStore.register "today" spaced start).1 = .ok 1 ∧
        Registry.inStore.Keeps (Registry.inStore.register "today" spaced start).2 [kept] := by
  intro spaced kept start
  have hm : spaced.missing? = none := by decide +kernel
  have hkept : spaced.definition 1 "today" = kept := by decide +kernel
  have hmemory : ∀ s : Store, Registry.inMemory.register "today" spaced { store := s } =
      (.ok 1, { store := s, definitions := [kept] }) := by
    intro s
    rw [← hkept]
    simp only [Registry.inMemory, Memory.register, spaced.normalize_eq, hm]
    rfl
  have hstore : ∀ s : Store, s.Keeps [] → (Registry.inStore.register "today" spaced { store := s }).1 = .ok 1 ∧
      Registry.inStore.Keeps (Registry.inStore.register "today" spaced { store := s }).2 [kept] := by
    intro s hs
    have hnumbered : Numbered [] := fun n hn => by cases hn
    obtain ⟨hid, hkeeps⟩ := hs.register hnumbered (by decide) hm "today"
    rw [← hkept]
    exact ⟨hid, .inStore hkeeps (hnumbered.concat rfl)⟩
  have hopened := Store.keeps_of_open (s := { path := "gate.db", medium := .database [] }) rfl rfl
  refine ⟨by decide, ?_, hstore _ hopened.2⟩
  rw [hmemory]
  exact ⟨rfl, .inMemory⟩

end Refusals

end EndpointGate
