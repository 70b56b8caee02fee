import EndpointGate.Gateway.Service
import EndpointGate.Proofs.EndpointLookup
import Mathlib

/-! Histories of a registry. What a registry answers depends on the registrations accepted before: they
are numbered from one in their order, are listed so, and the first that has exactly the name, the method
and the credential asked for is the one found. -/

namespace EndpointGate

inductive RegistryCall
  | register (now : String) (r : Registration)
  | resolve (key : EndpointKey) (credential : String)
  | list

inductive RegistryAnswer
  | registered (id : Except RegistryError Int)
  | resolved (found : Except RegistryError (Option Definition))
  | listed (ds : Except RegistryError (List Definition))

namespace Registry

def IsOwn (registry : Registry) : Prop := registry = .inStore ∨ registry = .inMemory

def answer (registry : Registry) (h : Holdings) : RegistryCall → RegistryAnswer × Holdings
  | .register now r => ((.registered (registry.register now r h).1), (registry.register now r h).2)
  | .resolve key credential => (.resolved (registry.resolve key credential h), h)
  | .list => (.listed (registry.list h), h)

def answers (registry : Registry) (h : Holdings) :
    List RegistryCall → List RegistryAnswer × Holdings
  | [] => ([], h)
  | c :: rest =>
    let (a, h) := registry.answer h c
    let (more, h) := answers registry h rest
    (a :: more, h)

end Registry

namespace Registration

/-- Whether a field is not filled; a credential of blanks counts as filled. -/
def lacks (r : Registration) : RegistrationField → Bool
  | .endpointName => Text.allBlank r.endpointName
  | .method => Text.allBlank r.method
  | .credential => r.credential.isEmpty
  | .sqlTemplate => Text.allBlank r.sqlTemplate

def missing? (r : Registration) : Option RegistrationField :=
  [.endpointName, .method, .credential, .sqlTemplate].find? r.lacks

def definition (r : Registration) (id : Int) (now : String) : Definition :=
  ⟨id, r.endpointName, Text.upperAscii (Text.trim r.method), r.credential, r.sqlTemplate, now⟩

theorem normalize_eq (r : Registration) : r.normalize = match r.missing? with
    | some field => .error field
    | none => .ok { r with method := Text.upperAscii (Text.trim r.method) } := by
  unfold normalize missing?
  cases hn : Text.allBlank r.endpointName <;> cases hm : Text.allBlank r.method <;>
    cases hc : r.credential.isEmpty <;> cases ht : Text.allBlank r.sqlTemplate <;>
    simp [lacks, hn, hm, hc, ht]

end Registration

namespace RegistryCall

def accepted? : RegistryCall → Option (String × Registration)
  | .register now r => if r.missing? = none then some (now, r) else none
  | _ => none

def answerAmong (ds : List Definition) : RegistryCall → RegistryAnswer
  | .register _ r => .registered <| match r.missing? with
    | some field => .error (.missingField field)
    | none => .ok (ds.length + 1)
  | .resolve key credential => .resolved (.ok (ds.find? fun d => d.Answers key credential))
  | .list => .listed (.ok ds)

end RegistryCall

def Numbered (ds : List Definition) : Prop := ∀ n (h : n < ds.length), ds[n].id = n + 1

section Numbered

variable {ds : List Definition}

theorem Numbered.ascending (h : Numbered ds) : ds.Pairwise fun a b => a.id < b.id := by
  rw [List.pairwise_iff_getElem]
  intro i j hi hj hlt
  rw [h i hi, h j hj]
  omega

theorem Numbered.id_le (h : Numbered ds) {d : Definition} (hd : d ∈ ds) : d.id ≤ ds.length := by
  obtain ⟨n, hn, rfl⟩ := List.getElem_of_mem hd
  rw [h n hn]
  omega

theorem Numbered.last (h : Numbered ds) : ((ds.getLast?).map Definition.id).getD 0 = ds.length := by
  cases hl : ds.getLast? with
  | none => simp [List.getLast?_eq_none_iff.mp hl]
  | some d =>
    rw [List.getLast?_eq_getElem?, List.getElem?_eq_some_iff] at hl
    obtain ⟨hlt, rfl⟩ := hl
    have hid := h _ hlt
    simp only [Option.map_some, Option.getD_some, hid]
    omega

end Numbered

def recorded (calls : List RegistryCall) : List Definition :=
  (calls.filterMap RegistryCall.accepted?).mapIdx fun n p => p.2.definition (n + 1) p.1

theorem recorded_append (calls more : List RegistryCall) :
    recorded (calls ++ more) = recorded calls ++
      (more.filterMap RegistryCall.accepted?).mapIdx fun n p =>
        p.2.definition (n + (recorded calls).length + 1) p.1 := by
  simp [recorded, List.mapIdx_append]

theorem recorded_concat_of_refused {c : RegistryCall} (h : c.accepted? = none)
    (calls : List RegistryCall) : recorded (calls ++ [c]) = recorded calls := by
  simp [recorded_append, h]

theorem recorded_concat_register {r : Registration} (h : r.missing? = none)
    (calls : List RegistryCall) (now : String) : recorded (calls ++ [.register now r]) =
      recorded calls ++ [r.definition ((recorded calls).length + 1) now] := by
  simp [recorded_append, RegistryCall.accepted?, h]

theorem numbered_recorded (calls : List RegistryCall) : Numbered (recorded calls) := by
  intro n h
  simp [recorded, Registration.definition]

theorem registration_of_mem_recorded {calls : List RegistryCall} {d : Definition}
    (h : d ∈ recorded calls) : ∃ now r id, RegistryCall.register now r ∈ calls ∧
      r.missing? = none ∧ d = r.definition id now := by
  obtain ⟨n, hn, rfl⟩ := List.mem_mapIdx.mp h
  obtain ⟨c, hc, hacc⟩ := List.mem_filterMap.mp (List.getElem_mem hn)
  cases c with
  | register now r =>
    simp only [RegistryCall.accepted?, Option.ite_none_right_eq_some] at hacc
    obtain ⟨hm, hp⟩ := hacc
    exact ⟨now, r, _, hc, hm, by rw [← Option.some.inj hp]⟩
  | resolve | list => cases hacc

theorem key_recorded {calls : List RegistryCall} {d : Definition} (h : d ∈ recorded calls) :
    d.key = ⟨d.name, d.method⟩ := by
  obtain ⟨now, r, id, -, -, rfl⟩ := registration_of_mem_recorded h
  have hupper : Char.toUpper ∘ Char.toUpper = Char.toUpper :=
    funext Char.toUpper_toUpper_eq_toUpper
  simp [Registration.definition, Definition.key, EndpointKey.of, Text.upperAscii, String.map_map,
    hupper]

theorem credential_recorded {calls : List RegistryCall} {d : Definition} (h : d ∈ recorded calls) :
    d.credential.isEmpty = false := by
  obtain ⟨now, r, id, -, hm, rfl⟩ := registration_of_mem_recorded h
  have hlacks := List.find?_eq_none.mp hm .credential (by simp)
  simpa [Registration.lacks, Registration.definition] using hlacks

theorem find?_recorded_append {calls : List RegistryCall} {p : Definition → Bool} {d : Definition}
    (h : (recorded calls).find? p = some d) (more : List RegistryCall) :
    (recorded (calls ++ more)).find? p = some d := by
  rw [recorded_append, List.find?_append, h, Option.some_or]

theorem find?_of_mem_recorded {calls : List RegistryCall} {d : Definition}
    (h : d ∈ recorded calls) : ∃ e, (recorded calls).find? (fun x => x.Answers d.key d.credential) =
      some e ∧ e.name = d.name ∧ e.method = d.method ∧ e.credential = d.credential ∧ e.id ≤ d.id := by
  have hself : decide (d.Answers d.key d.credential) = true := by
    rw [key_recorded h, decide_eq_true_iff]
    exact ⟨rfl, rfl, rfl⟩
  have hsome : ((recorded calls).find? fun x => x.Answers d.key d.credential).isSome :=
    List.find?_isSome.mpr ⟨d, h, hself⟩
  obtain ⟨e, he⟩ := Option.isSome_iff_exists.mp hsome
  rw [← lowest?_of_ascending (numbered_recorded calls).ascending] at he ⊢
  obtain ⟨hn, hm, hc⟩ := answers_of_lowest? he
  rw [key_recorded h] at hn hm
  refine ⟨e, he, hn, hm, hc, ?_⟩
  have hleast := List.find?_some he
  exact of_decide_eq_true (List.all_eq_true.mp hleast d (List.mem_filter.mpr ⟨h, hself⟩))

section Memory

theorem Memory.nextId_of_numbered {ds : List Definition} (h : Numbered ds) :
    nextId ds = ds.length + 1 := by
  rw [← h.last, nextId]
  cases ds.getLast? <;> rfl

theorem Memory.answer_recorded (calls : List RegistryCall) (s : Store) (c : RegistryCall) :
    Registry.inMemory.answer { store := s, definitions := recorded calls } c =
      (c.answerAmong (recorded calls), { store := s, definitions := recorded (calls ++ [c]) }) := by
  cases c with
  | register now r =>
    cases hm : r.missing? with
    | some field =>
      rw [recorded_concat_of_refused (by simp [RegistryCall.accepted?, hm])]
      simp [Registry.answer, Registry.inMemory, register, r.normalize_eq, hm,
        RegistryCall.answerAmong]
    | none =>
      rw [recorded_concat_register hm]
      simp [Registry.answer, Registry.inMemory, register, r.normalize_eq, hm,
        RegistryCall.answerAmong, nextId_of_numbered (numbered_recorded calls), add,
        Registration.definition]
  | resolve key credential =>
    rw [recorded_concat_of_refused rfl]
    simp [Registry.answer, Registry.inMemory, resolve_eq, RegistryCall.answerAmong]
  | list =>
    rw [recorded_concat_of_refused rfl]
    rfl

theorem Memory.answers_recorded (before calls : List RegistryCall) (s : Store) :
    Registry.inMemory.answers { store := s, definitions := recorded before } calls =
      (calls.mapIdx fun k c => c.answerAmong (recorded (before ++ calls.take k)),
        { store := s, definitions := recorded (before ++ calls) }) := by
  induction calls generalizing before with
  | nil => simp [Registry.answers]
  | cons c rest ih =>
    simp only [Registry.answers, answer_recorded, ih]
    simp [List.mapIdx_cons]

/-- Every answer of a registry in memory is up to the registrations accepted before, and it holds one
definition for each of them. What resolves stays as it is; every definition listed resolves to itself or
to an older one of its triple; and the gate lets pass whatever was found. -/
theorem memory_history (calls : List RegistryCall) (s : Store) :
    let h := (Registry.inMemory.answers { store := s } calls).2
    Registry.inMemory.answers { store := s } calls =
      (calls.mapIdx fun k c => c.answerAmong (recorded (calls.take k)),
        { store := s, definitions := recorded calls }) ∧
    (∀ more key credential d, Registry.inMemory.resolve key credential h = .ok (some d) →
      Registry.inMemory.resolve key credential (Registry.inMemory.answers h more).2 = .ok (some d)) ∧
    (∀ d ∈ recorded calls, ∃ e, Registry.inMemory.resolve d.key d.credential h = .ok (some e) ∧
      e.name = d.name ∧ e.method = d.method ∧ e.credential = d.credential ∧ e.id ≤ d.id) ∧
    ∀ catalog name method credential d,
      Registry.inMemory.resolve (.of name method) credential h = .ok (some d) →
      d.admits credential = .allowed ∧
        Gateway.resolve ⟨.inMemory, catalog⟩ name method (some credential) h = .ok d := by
  have hrun := Memory.answers_recorded [] calls s
  have hresolve : ∀ (ds : List Definition) (key : EndpointKey) (credential : String),
      Registry.inMemory.resolve key credential { store := s, definitions := ds } =
        .ok (ds.find? fun d => d.Answers key credential) := by
    intro ds key credential
    rw [← Memory.resolve_eq]
    rfl
  intro h
  have hh : h = { store := s, definitions := recorded calls } := by
    change (Registry.inMemory.answers { store := s, definitions := recorded [] } calls).2 = _
    rw [hrun]
    rfl
  refine ⟨hrun, fun more key credential d hd => ?_, fun d hd => ?_,
    fun catalog name method credential d hd => ?_⟩
  · rw [hh, hresolve, Except.ok.injEq] at hd
    rw [hh, Memory.answers_recorded, hresolve, find?_recorded_append hd]
  · obtain ⟨e, he, hsame⟩ := find?_of_mem_recorded hd
    exact ⟨e, by rw [hh, hresolve, he], hsame⟩
  · rw [hh, hresolve, Except.ok.injEq] at hd
    have hfound := List.find?_some hd
    obtain ⟨-, -, rfl⟩ := of_decide_eq_true hfound
    have hadmits := (d.admits_iff d.credential).mpr rfl
    have hfilled := credential_recorded (List.mem_of_find?_eq_some hd)
    refine ⟨hadmits, ?_⟩
    simp only [Gateway.resolve, hfilled, hh, hresolve, hd, hadmits]
    rfl

end Memory

end EndpointGate
