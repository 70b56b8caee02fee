import EndpointGate.Proofs.RequestAccounts
import EndpointGate.Proofs.UnmatchedRequests

/-! Credentials are only compared. If all credentials are renamed, different ones to different ones, in
the definitions held and in all calls, then the answers, the lines, the counters and the tables stay. -/

namespace EndpointGate

/-- New credentials for all: the empty one stays, and different ones stay different. -/
structure CredentialRenaming where
  new : String → String
  injective : Function.Injective new
  new_empty : new "" = ""

def GatewayAnswer.response : GatewayAnswer → Http.Response
  | .served result => Http.Service.respond result
  | .registered id => Http.Service.answer Http.Service.registeredJson id
  | .listed ds => Http.Service.answer Http.Service.listedJson ds

namespace CredentialRenaming

def swap (a b : String) (ha : a ≠ "") (hb : b ≠ "") : CredentialRenaming where
  new := Equiv.swap a b
  injective := (Equiv.swap a b).injective
  new_empty := Equiv.swap_apply_of_ne_of_ne ha.symm hb.symm

variable (ρ : CredentialRenaming)

@[simp] theorem isEmpty_new (credential : String) :
    (ρ.new credential).isEmpty = credential.isEmpty := by
  have hiff : ρ.new credential = "" ↔ credential = "" := by
    rw [← ρ.injective.eq_iff (a := credential), ρ.new_empty]
  rw [Bool.eq_iff_iff, String.isEmpty_iff, String.isEmpty_iff, hiff]

def definition (d : Definition) : Definition := { d with credential := ρ.new d.credential }

def registration (r : Registration) : Registration := { r with credential := ρ.new r.credential }

def request (q : GatewayRequest) : GatewayRequest := q.withCredential (q.credential.map ρ.new)

def call : GatewayCall → GatewayCall
  | .request q => .request (ρ.request q)
  | .register now r => .register now (ρ.registration r)
  | .endpoints => .endpoints

def answer : GatewayAnswer → GatewayAnswer
  | .served result => .served result
  | .registered id => .registered id
  | .listed ds => .listed (ds.map (·.map ρ.definition))

def holdings (h : Holdings) : Holdings := { h with definitions := h.definitions.map ρ.definition }

def running (s : Running) : Running := { s with holdings := ρ.holdings s.holdings }

theorem response_answer (a : GatewayAnswer) : (ρ.answer a).response = a.response := by
  cases a with
  | served | registered => rfl
  | listed ds =>
    cases ds with
    | error e => rfl
    | ok ds =>
      have hjson : Definition.toJson ∘ ρ.definition = Definition.toJson := rfl
      simp [answer, GatewayAnswer.response, Except.map, Http.Service.answer,
        Http.Service.listedJson, hjson]

theorem answers_definition (d : Definition) (key : EndpointKey) (credential : String) :
    (ρ.definition d).Answers key (ρ.new credential) ↔ d.Answers key credential := by
  simp [Definition.Answers, definition, ρ.injective.eq_iff]

theorem resolve_definitions (key : EndpointKey) (credential : String) (ds : List Definition) :
    Memory.resolve key (ρ.new credential) (ds.map ρ.definition) =
      (Memory.resolve key credential ds).map ρ.definition := by
  simp only [Memory.resolve_eq, List.find?_map, Function.comp_def, answers_definition]

theorem nextId_definitions (ds : List Definition) :
    Memory.nextId (ds.map ρ.definition) = Memory.nextId ds := by
  simp only [Memory.nextId, List.getLast?_map, Option.map_map]
  rfl

theorem normalize_registration (r : Registration) :
    (ρ.registration r).normalize = r.normalize.map ρ.registration := by
  simp only [Registration.normalize, apply_ite (Except.map ρ.registration)]
  simp only [registration, isEmpty_new]
  rfl

theorem register_definitions (now : String) (r : Registration) (ds : List Definition) :
    Memory.register now (ρ.registration r) (ds.map ρ.definition) =
      ((Memory.register now r ds).1, (Memory.register now r ds).2.map ρ.definition) := by
  rw [Memory.register, normalize_registration, Memory.register]
  cases r.normalize with
  | error field => rfl
  | ok r => simp [Except.map, nextId_definitions, Memory.add, definition, registration]

section Gateway

variable {g : Gateway}

theorem resolve_holdings (hmem : g.registry = .inMemory) (endpoint method : String)
    (credential : Option String) (h : Holdings) :
    g.resolve endpoint method (credential.map ρ.new) (ρ.holdings h) =
      (g.resolve endpoint method credential h).map ρ.definition := by
  cases credential with
  | none => rfl
  | some credential =>
    have hfound := ρ.resolve_definitions (.of endpoint method) credential h.definitions
    by_cases hempty : credential.isEmpty
    · simp only [Gateway.resolve, Option.map_some, isEmpty_new, hempty]
      rfl
    · simp only [Gateway.resolve, Option.map_some, isEmpty_new, hempty, hmem, Registry.inMemory,
        holdings, hfound]
      cases Memory.resolve (.of endpoint method) credential h.definitions with
      | none => rfl
      | some d =>
        have hadmits : (ρ.definition d).admits (ρ.new credential) = .allowed ↔
            d.admits credential = .allowed := by
          simp only [Definition.admits_iff, definition, ρ.injective.eq_iff]
        by_cases hd : d.admits credential = .allowed
        · simp [hadmits.mpr hd, hd, Except.map]
        · simp [mt hadmits.mp hd, hd, Except.map]

theorem course_request (hmem : g.registry = .inMemory) (q : GatewayRequest) (h : Holdings) :
    g.course (ρ.request q) (ρ.holdings h) = g.course q h := by
  have hresolve : g.resolve (ρ.request q).endpoint (ρ.request q).method (ρ.request q).credential
      (ρ.holdings h) = (g.resolve q.endpoint q.method q.credential h).map ρ.definition := by
    simpa [request] using ρ.resolve_holdings hmem q.endpoint q.method q.credential h
  have hwork : g.workOf (ρ.request q) = g.workOf q := by cases q <;> rfl
  simp only [Gateway.course, hresolve, hwork]
  cases g.resolve q.endpoint q.method q.credential h <;> rfl

theorem lines_request (q : GatewayRequest) (c : Course) : c.lines (ρ.request q) = c.lines q := by
  cases q <;> cases c <;> rfl

theorem serve_request (hmem : g.registry = .inMemory) (q : GatewayRequest) (s : Running) :
    g.serve (ρ.request q) (ρ.running s) = ((g.serve q s).1, ρ.running (g.serve q s).2) := by
  have hcourse : g.course (ρ.request q) (ρ.running s).holdings = g.course q s.holdings :=
    ρ.course_request hmem q s.holdings
  rw [Gateway.serve_eq, Gateway.serve_eq, hcourse, lines_request]
  cases g.course q s.holdings <;> rfl

theorem register_registration (hmem : g.registry = .inMemory) (now : String) (r : Registration)
    (s : Running) :
    g.register now (ρ.registration r) (ρ.running s) =
      ((g.register now r s).1, ρ.running (g.register now r s).2) := by
  simp only [Gateway.register, hmem, Registry.inMemory, running, holdings, register_definitions]
  rcases Memory.register now r s.holdings.definitions with ⟨e | id, ds⟩
  · by_cases he : e.isClientError <;> simp [he, registration]
  · rfl

theorem answer_call (hmem : g.registry = .inMemory) (s : Running) (c : GatewayCall) :
    g.answer (ρ.running s) (ρ.call c) = (ρ.answer (g.answer s c).1, ρ.running (g.answer s c).2) := by
  cases c with
  | request q => simp only [call, Gateway.answer, ρ.serve_request hmem, answer]
  | register now r => simp only [call, Gateway.answer, ρ.register_registration hmem, answer]
  | endpoints => simp only [call, Gateway.answer, Gateway.endpoints, hmem]; rfl

theorem answers_calls (hmem : g.registry = .inMemory) (s : Running) (calls : List GatewayCall) :
    g.answers (ρ.running s) (calls.map ρ.call) =
      ((g.answers s calls).1.map ρ.answer, ρ.running (g.answers s calls).2) :=
  serially_map (ρ.answer_call hmem) s calls

end Gateway

end CredentialRenaming

/-- Credentials are only compared: under new names for all of them each call is answered as before but
for the names in the definitions listed, which are not shown, and all that is written, counted and kept
in the tables is the same. -/
theorem Gateway.credentials_only_compared (ρ : CredentialRenaming) (catalog : Catalog) (s : Running)
    (calls : List GatewayCall) :
    let g : Gateway := ⟨.inMemory, catalog⟩
    let (before, left) := g.answers s calls
    let (after, leftAfter) := g.answers (ρ.running s) (calls.map ρ.call)
    after = before.map ρ.answer ∧
      after.map GatewayAnswer.response = before.map GatewayAnswer.response ∧
      leftAfter.journal = left.journal ∧ leftAfter.metrics = left.metrics ∧
      leftAfter.holdings.store = left.holdings.store ∧
      leftAfter.holdings.definitions = left.holdings.definitions.map ρ.definition := by
  intro g
  rw [ρ.answers_calls (g := g) rfl]
  refine ⟨rfl, ?_, rfl, rfl, rfl, rfl⟩
  simp only [List.map_map, Function.comp_def, ρ.response_answer]
  rfl

theorem Gateway.credentials_only_compared_swapped :
    let ρ := CredentialRenaming.swap "k1" "k2" (by decide) (by decide)
    let g : Gateway := ⟨.inMemory, .empty⟩
    let s : Running := { holdings := ⟨⟨"", .fleeting, none⟩, []⟩, journal := .attentive }
    let calls : List GatewayCall := [.register "today" ⟨"items", "post", "k1", "SELECT 1"⟩, .endpoints]
    (g.answers (ρ.running s) (calls.map ρ.call)).1 =
      [.registered (.ok 1), .listed (.ok [⟨1, "items", "POST", "k2", "SELECT 1", "today"⟩])] := by
  intro ρ g s calls
  have hnew : ρ.new "k1" = "k2" := Equiv.swap_apply_left "k1" "k2"
  have hnormal : Registration.normalize ⟨"items", "post", "k1", "SELECT 1"⟩ =
      .ok ⟨"items", "POST", "k1", "SELECT 1"⟩ := by
    decide +kernel
  have hbefore : (g.answers s calls).1 =
      [.registered (.ok 1), .listed (.ok [⟨1, "items", "POST", "k1", "SELECT 1", "today"⟩])] := by
    simp only [g, calls, answers, serially, answer, register, Registry.inMemory, Memory.register, hnormal]
    rfl
  have hafter : (g.answers (ρ.running s) (calls.map ρ.call)).1 = (g.answers s calls).1.map ρ.answer :=
    (credentials_only_compared ρ .empty s calls).1
  rw [hafter, hbefore, ← hnew]
  rfl

end EndpointGate
