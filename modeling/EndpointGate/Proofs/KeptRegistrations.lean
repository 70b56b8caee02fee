import EndpointGate.Proofs.RegistryEquivalence

/-! What has been registered stays registered. A registration that was answered with an id has put a
definition behind those before it, and nothing that is asked of the registry takes one away; so whoever asks
for it with its credential gets a definition, or the store fails. -/

namespace EndpointGate

def Registration.key (r : Registration) : EndpointKey :=
  ⟨r.endpointName, Text.upperAscii (Text.trim r.method)⟩

def Registered (now : String) (r : Registration) (id : Int) : RegistryCall × RegistryAnswer :=
  (.register now r, .registered (.ok id))

namespace Registry

def Offers (registry : Registry) (h : Holdings) (key : EndpointKey) (credential : String) : Prop :=
  ∀ found, registry.resolve key credential h = .ok found →
    ∃ d, found = some d ∧ d.admits credential = .allowed

inductive Keeps : Registry → Holdings → List Definition → Prop
  | inMemory {h : Holdings} : Keeps .inMemory h h.definitions
  | inStore {h : Holdings} {ds : List Definition} :
      h.store.Keeps ds → Numbered ds → Keeps .inStore h ds

/-- How holdings come about, with the calls to a registry and their answers: a store without tables is
opened, the registry is called, the store is opened again, and it is worked on in ways that leave what the
registry keeps there as it is. -/
inductive Lives (registry : Registry) (path : String) : List (RegistryCall × RegistryAnswer) → Holdings → Prop
  | opened : Lives registry path [] { store := (Store.open? { path, medium := .database [] }).2 }
  | called {history : List (RegistryCall × RegistryAnswer)} {h : Holdings} (c : RegistryCall) :
      Lives registry path history h →
      Lives registry path (history ++ [(c, (registry.answer h c).1)]) (registry.answer h c).2
  | reopened {history : List (RegistryCall × RegistryAnswer)} {h : Holdings} :
      Lives registry path history h → Lives registry path history { h with store := h.store.open?.2 }
  | worked {history : List (RegistryCall × RegistryAnswer)} {h : Holdings} (u : StoreUse) :
      Lives registry path history h →
      (registry = .inStore → (h.store.after u).tables.find? EndpointTable.name =
        h.store.tables.find? EndpointTable.name) →
      Lives registry path history { h with store := h.store.after u }

end Registry

section Answers

variable {now : String} {r : Registration} {id : Int} {ds : List Definition}

theorem answers_definition (r : Registration) (id : Int) (now : String) :
    (r.definition id now).Answers r.key r.credential := ⟨rfl, rfl, rfl⟩

theorem Memory.offers (hd : r.definition id now ∈ ds) (s : Store) :
    Registry.inMemory.Offers ⟨s, ds⟩ r.key r.credential := by
  intro found hfound
  have hresolve : found = ds.find? fun d => d.Answers r.key r.credential := by
    rw [← Memory.resolve_eq]
    exact (Except.ok.inj hfound).symm
  have hsome : (ds.find? fun d => d.Answers r.key r.credential).isSome :=
    List.find?_isSome.mpr ⟨_, hd, decide_eq_true (answers_definition r id now)⟩
  obtain ⟨d, hfind⟩ := Option.isSome_iff_exists.mp hsome
  have hmatches := List.find?_some hfind
  have hanswers : d.Answers r.key r.credential := of_decide_eq_true hmatches
  exact ⟨d, hresolve.trans hfind, (d.admits_iff _).mpr hanswers.2.2⟩

/-- The row of the definition meets the condition, so some row does; if it is not the row of a definition
the look-up fails. -/
theorem Store.Keeps.offers {h : Holdings} (hkeeps : h.store.Keeps ds) (hn : Numbered ds)
    (hd : r.definition id now ∈ ds) : Registry.inStore.Offers h r.key r.credential := by
  intro found hfound
  have hresolve := Store.resolve_eq hkeeps.database hkeeps.endpoints (EndpointTable.laid_holding hn)
    r.key r.credential
  have hmeets : EndpointTable.meets r.key r.credential (EndpointTable.rowOf (r.definition id now)) = true :=
    (EndpointTable.meets_texts_iff rfl rfl rfl r.key r.credential).mpr ⟨rfl, rfl, rfl⟩
  have hsome : ((EndpointTable.holding ds).rows.find? (EndpointTable.meets r.key r.credential)).isSome :=
    List.find?_isSome.mpr ⟨_, List.mem_map_of_mem hd, hmeets⟩
  obtain ⟨row, hrow⟩ := Option.isSome_iff_exists.mp hsome
  rw [hkeeps.read, hrow] at hresolve
  cases hread : EndpointTable.ofRow (EndpointTable.shown row) with
  | error f =>
    simp only [hread] at hresolve
    cases hresolve.symm.trans hfound
  | ok d =>
    simp only [hread] at hresolve
    obtain rfl := Except.ok.inj (hresolve.symm.trans hfound)
    have hanswers := (EndpointTable.meets_iff hread r.key r.credential).mp (List.find?_some hrow)
    exact ⟨d, rfl, (d.admits_iff _).mpr hanswers.2.2⟩

end Answers

section Accepted

variable {ds : List Definition} {s : Store}

theorem Numbered.concat {d : Definition} (h : Numbered ds) (hd : d.id = ds.length + 1) :
    Numbered (ds ++ [d]) := by
  intro n hn
  rcases Nat.lt_or_ge n ds.length with hlt | hge
  · rw [List.getElem_append_left hlt]
    exact h n hlt
  · have hlast : n = ds.length := by
      rw [List.length_append, List.length_singleton] at hn
      omega
    subst hlast
    simpa using hd

theorem Store.Keeps.addDefinition_full (h : s.Keeps ds) (hn : Numbered ds)
    (hfull : ¬(ds.length : Int) < Sql.Value.greatestInteger) (now : String) (r : Registration) :
    s.addDefinition now r = (.error (.sql .datatypeMismatch), s) := by
  let b := EndpointTable.bindings [r.endpointName, r.method, r.credential, r.sqlTemplate, now]
  have hstep : EndpointTable.insertion.step b.value { db := s.tables } EndpointTable.source =
      .error (.undo .datatypeMismatch) := by
    have hfind : s.tables.find? EndpointTable.insertion.table = some (EndpointTable.holding ds) :=
      h.endpoints
    have hnumber : Sql.rowNumber (EndpointTable.holding ds)
        (EndpointTable.source.id.eval { parameters := b.value }) = .error (.undo .datatypeMismatch) := by
      have hnull : Sql.Affinity.numeric.store
        (EndpointTable.source.id.eval { parameters := b.value }) = .null := rfl
      simp only [Sql.rowNumber, hnull, EndpointTable.nextId?_numbered hn, if_neg hfull]
    simp only [Sql.Insertion.step, hfind, hnumber, bind, Except.bind]
  have hperform : (Sql.Action.insert EndpointTable.insertion).perform s.tables b.value =
      .stopped (.undo .datatypeMismatch) none := by
    have hrows : EndpointTable.insertion.rows = [EndpointTable.source] := rfl
    simp only [Sql.Action.perform, Sql.Insertion.run, hrows, Sql.Progress.each, hstep]
    rfl
  have hrun : (Sql.Connection.ofDatabase s.tables).runStatement EndpointTable.addition b =
      (.error .datatypeMismatch, .ofDatabase s.tables) := by
    rw [Sql.Connection.runStatement_free (EndpointTable.resolve_addition h.endpoints) (by decide),
      hperform]
    rfl
  have hclosing : s.closing (.ofDatabase s.tables) = s := keeping_tables s
  simp only [Store.addDefinition, h.connect]
  rw [hrun, hclosing]

end Accepted

namespace Registry

variable {registry : Registry} {h : Holdings} {ds : List Definition} {r : Registration} {now : String}
  {id : Int}

theorem Keeps.offers (hkeeps : registry.Keeps h ds) (hd : r.definition id now ∈ ds) :
    registry.Offers h r.key r.credential := by
  cases hkeeps with
  | inMemory => exact Memory.offers hd h.store
  | inStore hstore hn => exact hstore.offers hn hd

theorem Keeps.register_inMemory (now : String) (r : Registration) (h : Holdings) :
    h.definitions ⊆ (Registry.inMemory.register now r h).2.definitions ∧
      ∀ id, (Registry.inMemory.register now r h).1 = .ok id → r.missing? = none ∧
        r.definition id now ∈ (Registry.inMemory.register now r h).2.definitions := by
  simp only [Registry.inMemory, Memory.register, r.normalize_eq]
  cases r.missing? with
  | some field => exact ⟨List.Subset.refl _, fun id hid => by cases hid⟩
  | none =>
    refine ⟨List.subset_append_left _ _, fun id hid => ⟨rfl, ?_⟩⟩
    obtain rfl := Except.ok.inj hid
    exact List.mem_append_right _ (List.mem_singleton.mpr rfl)

theorem Keeps.register_inStore (hkeeps : h.store.Keeps ds) (hn : Numbered ds) (now : String)
    (r : Registration) : ∃ ds', Registry.inStore.Keeps (Registry.inStore.register now r h).2 ds' ∧
      ds ⊆ ds' ∧ ∀ id, (Registry.inStore.register now r h).1 = .ok id →
        r.missing? = none ∧ r.definition id now ∈ ds' := by
  cases hm : r.missing? with
  | some field =>
    simp only [Registry.inStore, Store.register_of_lacking hm]
    exact ⟨ds, .inStore hkeeps hn, List.Subset.refl ds, fun id hid => by cases hid⟩
  | none =>
    by_cases hroom : (ds.length : Int) < Sql.Value.greatestInteger
    · obtain ⟨hid, hkept⟩ := hkeeps.register hn hroom hm now
      refine ⟨_, .inStore hkept (hn.concat rfl), List.subset_append_left _ _, fun id hok => ⟨rfl, ?_⟩⟩
      obtain rfl := Except.ok.inj (hid.symm.trans hok)
      exact List.mem_append_right _ (List.mem_singleton.mpr rfl)
    · simp only [Registry.inStore, Store.register_of_filled hm, hkeeps.addDefinition_full hn hroom]
      exact ⟨ds, .inStore hkeeps hn, List.Subset.refl ds, fun id hid => by cases hid⟩

theorem Keeps.answer (hkeeps : registry.Keeps h ds) (c : RegistryCall) :
    ∃ ds', registry.Keeps (registry.answer h c).2 ds' ∧ ds ⊆ ds' ∧
      ∀ now r id, Registered now r id = (c, (registry.answer h c).1) →
        r.missing? = none ∧ r.definition id now ∈ ds' := by
  cases c with
  | resolve | list =>
    refine ⟨ds, hkeeps, List.Subset.refl ds, fun now r id hreg => ?_⟩
    cases congrArg Prod.fst hreg
  | register now r =>
    obtain ⟨ds', hkept, hsubset, hadded⟩ : ∃ ds', registry.Keeps (registry.register now r h).2 ds' ∧
        ds ⊆ ds' ∧ ∀ id, (registry.register now r h).1 = .ok id →
          r.missing? = none ∧ r.definition id now ∈ ds' := by
      cases hkeeps with
      | inMemory =>
        obtain ⟨hsubset, hadded⟩ := Keeps.register_inMemory now r h
        exact ⟨_, .inMemory, hsubset, hadded⟩
      | inStore hstore hn => exact Keeps.register_inStore hstore hn now r
    refine ⟨ds', hkept, hsubset, fun now' r' id hreg => ?_⟩
    obtain ⟨hcall, hanswer⟩ := Prod.mk.inj hreg
    obtain ⟨rfl, rfl⟩ := RegistryCall.register.inj hcall
    exact hadded id (RegistryAnswer.registered.inj hanswer).symm

theorem Lives.keeps {path : String} {history : List (RegistryCall × RegistryAnswer)}
    (hlife : registry.Lives path history h) (hown : registry.IsOwn) :
    ∃ ds, registry.Keeps h ds ∧ ∀ now r id, Registered now r id ∈ history →
      r.missing? = none ∧ r.definition id now ∈ ds := by
  -- on the life: only a call adds to what is kept, and it adds at the end
  induction hlife with
  | opened =>
    rcases hown with rfl | rfl
    · -- said of any store, or the opening is carried out when the types are compared
      have hnone : ∀ s : Store, s.Keeps [] → Registry.inStore.Keeps { store := s } [] :=
        fun s hs => .inStore hs fun n hn => by cases hn
      have hopened := Store.keeps_of_open (s := { path, medium := .database [] }) rfl rfl
      exact ⟨[], hnone _ hopened.2, fun now r id hreg => by cases hreg⟩
    · exact ⟨_, .inMemory, fun now r id hreg => by cases hreg⟩
  | called c hlife ih =>
    obtain ⟨ds, hkeeps, hadded⟩ := ih
    obtain ⟨ds', hkept, hsubset, hnew⟩ := hkeeps.answer c
    refine ⟨ds', hkept, fun now r id hreg => ?_⟩
    rcases List.mem_append.mp hreg with hold | hlast
    · obtain ⟨hm, hd⟩ := hadded now r id hold
      exact ⟨hm, hsubset hd⟩
    · exact hnew now r id (List.mem_singleton.mp hlast)
  | reopened hlife ih =>
    obtain ⟨ds, hkeeps, hadded⟩ := ih
    refine ⟨ds, ?_, hadded⟩
    cases hkeeps with
    | inMemory => exact .inMemory
    | inStore hstore hn => exact .inStore (by rwa [hstore.open_eq]) hn
  | worked u hlife hsame ih =>
    obtain ⟨ds, hkeeps, hadded⟩ := ih
    refine ⟨ds, ?_, hadded⟩
    cases hkeeps with
    | inMemory => exact .inMemory
    | inStore hstore hn => exact .inStore (hstore.after u (hsame rfl)) hn

theorem Lives.offers {path : String} {history : List (RegistryCall × RegistryAnswer)}
    (hlife : registry.Lives path history h) (hown : registry.IsOwn)
    (hreg : Registered now r id ∈ history) :
    registry.Offers h r.key r.credential ∧ r.credential.isEmpty = false := by
  obtain ⟨ds, hkeeps, hadded⟩ := hlife.keeps hown
  obtain ⟨hm, hd⟩ := hadded now r id hreg
  have hfilled := List.find?_eq_none.mp hm .credential (by simp)
  exact ⟨hkeeps.offers hd, by simpa [Registration.lacks] using hfilled⟩

end Registry

end EndpointGate
