import EndpointGate.Proofs.RegistryHistory
import EndpointGate.Proofs.RequestTasks

/-! What failures tell. A fault of the server is answered with one text. What a client is told that it did
wrong stands in its request and in the schemas, and there is at most one such fault of each kind. So the
answer to a request that fails is up to the request, the schemas and the kind of the failure, whatever is
held. -/

namespace EndpointGate

namespace GatewayError

@[simp] theorem isServerFault_ofResolution (e : RegistryError) : (ofResolution e).isServerFault = true := by
  cases e <;> rfl

theorem isServerFault_eq (e : GatewayError) :
    e.isServerFault = ["ExecutionFailed", "RegistrationFailed", "Internal"].contains e.kind := by
  cases e <;> simp [isServerFault, status, kind]

theorem status_of_isServerFault {e : GatewayError} (h : e.isServerFault = true) : e.status = 500 := by
  cases e with
  | authRejected | notResolved | validationRejected | malformedRequest => cases h
  | executionFailed | registrationFailed | internal => rfl

end GatewayError

theorem Store.addDefinition_error {now : String} {r : Registration} {s : Store} {e : RegistryError}
    (h : (s.addDefinition now r).1.mapError .store = .error e) : ∃ cause, e = .store cause := by
  cases ha : (s.addDefinition now r).1 with
  | ok id =>
    rw [ha] at h
    cases h
  | error cause =>
    rw [ha] at h
    exact ⟨cause, (Except.error.inj h).symm⟩

theorem Registry.IsOwn.missing {registry : Registry} (hown : registry.IsOwn) {now : String}
    {r : Registration} {h : Holdings} {field : RegistrationField}
    (he : (registry.register now r h).1 = .error (.missingField field)) : r.missing? = some field := by
  rcases hown with rfl | rfl
  · simp only [inStore, Store.register, r.normalize_eq] at he
    cases hm : r.missing? with
    | some other =>
      rw [hm] at he
      exact congrArg some (RegistryError.missingField.inj (Except.error.inj he))
    | none =>
      rw [hm] at he
      obtain ⟨cause, hstore⟩ := Store.addDefinition_error he
      cases hstore
  · simp only [inMemory, Memory.register, r.normalize_eq] at he
    cases hm : r.missing? with
    | some other =>
      rw [hm] at he
      exact congrArg some (RegistryError.missingField.inj (Except.error.inj he))
    | none =>
      rw [hm] at he
      cases he

namespace Gateway

variable {g : Gateway} {q : GatewayRequest} {s : Running} {e : GatewayError}

theorem resolve_error {endpoint method : String} {credential : Option String} {h : Holdings}
    (he : g.resolve endpoint method credential h = .error e) :
    e.isServerFault = true ∨ e = .authRejected ∨ e = .notResolved := by
  unfold resolve at he
  split at he
  · exact .inr (.inl (Except.error.inj he).symm)
  · split at he
    · exact .inr (.inl (Except.error.inj he).symm)
    · split at he
      · rw [← Except.error.inj he]
        exact .inl (GatewayError.isServerFault_ofResolution _)
      · exact .inr (.inr (Except.error.inj he).symm)
      · split at he
        · cases he
        · exact .inr (.inr (Except.error.inj he).symm)

theorem serve_error (he : (g.serve q s).1 = .error e) :
    g.resolve q.endpoint q.method q.credential s.holdings = .error e ∨ g.workOf q = .error e ∨
      e.isServerFault = true := by
  rw [serve_eq] at he
  unfold course at he
  split at he
  · rename_i e' hresolve
    obtain rfl := Except.error.inj he
    exact .inl hresolve
  · split at he
    · rename_i e' hwork
      obtain rfl := Except.error.inj he
      exact .inr (.inl hwork)
    · split at he
      · obtain rfl := Except.error.inj he
        exact .inr (.inr rfl)
      · cases he

theorem workOf_error {i : Invocation} (h : g.workOf (.invoke i) = .error e) :
    ∃ f, i.body.fault? g.catalog i.endpoint = some f ∧ e = .validationRejected f := by
  simp only [workOf] at h
  cases hb : g.batchOf i.endpoint i.body with
  | ok b =>
    rw [hb] at h
    cases h
  | error e' =>
    rw [hb] at h
    obtain rfl := Except.error.inj h
    exact fault_of_batchOf hb

theorem read_error {r : ReadRequest} (he : (g.read r s).1 = .error e) :
    e.isServerFault = true ∨ e = .authRejected ∨ e = .notResolved := by
  have hserve : (g.serve (.read r) s).1 = .error e := congrArg (Except.map Served.rows) he
  rcases serve_error hserve with hresolve | hwork | hfault
  · exact resolve_error hresolve
  · cases hwork
  · exact .inl hfault

theorem invoke_error {i : Invocation} (he : (g.invoke i s).1 = .error e) :
    e.isServerFault = true ∨ e = .authRejected ∨ e = .notResolved ∨
      ∃ f, i.body.fault? g.catalog i.endpoint = some f ∧ e = .validationRejected f := by
  have hserve : (g.serve (.invoke i) s).1 = .error e := congrArg (Except.map Served.outcome) he
  rcases serve_error hserve with hresolve | hwork | hfault
  · rcases resolve_error hresolve with hfault | hauth | hnone
    · exact .inl hfault
    · exact .inr (.inl hauth)
    · exact .inr (.inr (.inl hnone))
  · exact .inr (.inr (.inr (workOf_error hwork)))
  · exact .inl hfault

theorem register_error (hown : g.registry.IsOwn) {now : String} {r : Registration}
    (he : (g.register now r s).1 = .error e) : e.isServerFault = true ∨
      ∃ field, r.missing? = some field ∧ e = .malformedRequest (RegistryError.missingField field).message := by
  rcases hreg : g.registry.register now r s.holdings with ⟨cause | id, holdings⟩
  · cases cause with
    | missingField field =>
      have hmissing := hown.missing (congrArg Prod.fst hreg)
      simp only [register, hreg, RegistryError.isClientError, if_true] at he
      exact .inr ⟨field, hmissing, (Except.error.inj he).symm⟩
    | store | storage =>
      simp only [register, hreg, RegistryError.isClientError] at he
      rw [← Except.error.inj he]
      exact .inl rfl
  · simp only [register, hreg] at he
    cases he

end Gateway

namespace Http

def Request.blames (r : Request) (catalog : Catalog) : Task → List GatewayError
  | .read _ _ => [.authRejected, .notResolved]
  | .invoke name => match Service.invocationBody r.body with
    | .error e => [e]
    | .ok body => [.authRejected, .notResolved] ++
        (body.fault? catalog (Service.segment name)).toList.map .validationRejected
  | .register => .authRejected :: match Service.registrationBody r.body with
    | .error e => [e]
    | .ok registration => registration.missing?.toList.map fun field =>
        .malformedRequest (RegistryError.missingField field).message
  | .list => [.authRejected]

structure Run where
  service : Service
  moment : Moment
  held : Serving

namespace Run

def answer (x : Run) (r : Request) : Response := (x.service.handle x.moment r x.held).1

def FailsWith (x : Run) (r : Request) (e : GatewayError) : Prop :=
  ∃ t, r.task? = some t ∧ (x.service.perform x.moment r x.held t).1 = .error e

variable {x : Run} {r : Request} {e : GatewayError}

theorem answer_of_failsWith (h : x.FailsWith r e) : x.answer r = x.service.reply r (.error e) := by
  obtain ⟨t, ht, he⟩ := h
  rw [answer, Service.handle_of_task ht, he]

end Run

namespace Service

variable {s : Service} {moment : Moment} {r : Request} {st : Serving} {e : GatewayError}

theorem error_of_map {α β : Type} {f : α → β} {x : Except GatewayError α} (h : x.map f = .error e) :
    x = .error e := by
  cases x with
  | error e' => exact congrArg Except.error (Except.error.inj h)
  | ok a => cases h

theorem rowsOf_error {n : Nat} {items : List Json} (h : InvocationBody.rowsOf n items = .error e) :
    ∃ reason, e = .malformedRequest reason := by
  induction items generalizing n with
  | nil => cases h
  | cons item items ih =>
    cases item with
    | obj row => exact ih (error_of_map h)
    | null | bool | int | real | str | arr => exact ⟨_, (Except.error.inj h).symm⟩

theorem invocationBody_error {body : ByteArray} (h : invocationBody body = .error e) :
    ∃ reason, e = .malformedRequest reason := by
  unfold invocationBody at h
  split at h
  · cases h
  · split at h
    · rename_i j _
      unfold InvocationBody.ofJson at h
      split at h
      · split at h
        · exact rowsOf_error (error_of_map h)
        · cases h
      · exact ⟨_, (Except.error.inj h).symm⟩
    · exact ⟨_, (Except.error.inj h).symm⟩

theorem registrationBody_error {body : ByteArray} (h : registrationBody body = .error e) :
    ∃ reason, e = .malformedRequest reason := by
  unfold registrationBody at h
  split at h
  · cases h
  · exact ⟨_, (Except.error.inj h).symm⟩

theorem reply_of_isServerFault (h : e.isServerFault = true) :
    s.reply r (.error e) = s.cors.mark r (r.trim (.text 500 "Internal Server Error")) := by
  simp only [reply, answer, ofGatewayError, GatewayError.publicMessage, h, if_true,
    GatewayError.status_of_isServerFault h]

theorem perform_error (hown : s.gateway.registry.IsOwn) {t : Task}
    (h : (s.perform moment r st t).1 = .error e) :
    e.isServerFault = true ∨ e ∈ r.blames s.gateway.catalog t := by
  cases t with
  | read name id =>
    rcases Gateway.read_error (error_of_map h) with hfault | rfl | rfl
    · exact .inl hfault
    · exact .inr (by simp [Request.blames])
    · exact .inr (by simp [Request.blames])
  | invoke name =>
    simp only [perform, Request.blames] at h ⊢
    cases hbody : invocationBody r.body with
    | error e' =>
      rw [hbody] at h
      exact .inr (List.mem_singleton.mpr (Except.error.inj h).symm)
    | ok body =>
      rw [hbody] at h
      rcases Gateway.invoke_error (error_of_map h) with hfault | rfl | rfl | ⟨f, hf, rfl⟩
      · exact .inl hfault
      · exact .inr (by simp)
      · exact .inr (by simp)
      · exact .inr (by simp only [hf]; simp)
  | register =>
    simp only [perform, Request.blames] at h ⊢
    cases hadmin : s.checkAdmin r with
    | error e' =>
      rw [hadmin] at h
      obtain rfl := Except.error.inj h
      exact .inr (by simp [checkAdmin_error hadmin])
    | ok u =>
      rw [hadmin] at h
      cases hbody : registrationBody r.body with
      | error e' =>
        rw [hbody] at h
        obtain rfl := Except.error.inj h
        exact .inr (by simp)
      | ok registration =>
        rw [hbody] at h
        rcases Gateway.register_error hown (error_of_map h) with hfault | ⟨field, hmissing, rfl⟩
        · exact .inl hfault
        · exact .inr (by simp [hmissing])
  | list =>
    simp only [perform, Request.blames] at h ⊢
    cases hadmin : s.checkAdmin r with
    | error e' =>
      rw [hadmin] at h
      obtain rfl := Except.error.inj h
      exact .inr (by simp [checkAdmin_error hadmin])
    | ok u =>
      rw [hadmin] at h
      have hlisted := error_of_map h
      simp only [Gateway.endpoints] at hlisted
      cases hlist : s.gateway.registry.list st.running.holdings with
      | error cause =>
        rw [hlist] at hlisted
        rw [← Except.error.inj hlisted]
        exact .inl rfl
      | ok ds =>
        rw [hlist] at hlisted
        cases hlisted

end Service

section Kinds

variable {r : Request} {catalog : Catalog} {t : Task} {e : GatewayError}

theorem nodup_kinds (r : Request) (catalog : Catalog) (t : Task) :
    ((r.blames catalog t).map GatewayError.kind).Nodup := by
  cases t with
  | read | list => simp [Request.blames, GatewayError.kind]
  | invoke name =>
    simp only [Request.blames]
    cases hbody : Service.invocationBody r.body with
    | error e => simp
    | ok body =>
      cases hf : body.fault? catalog (Service.segment name) <;> simp [hf, GatewayError.kind]
  | register =>
    simp only [Request.blames]
    cases hbody : Service.registrationBody r.body with
    | error e =>
      obtain ⟨reason, rfl⟩ := Service.registrationBody_error hbody
      simp [GatewayError.kind]
    | ok registration => cases hm : registration.missing? <;> simp [hm, GatewayError.kind]

theorem isServerFault_of_mem_blames (h : e ∈ r.blames catalog t) : e.isServerFault = false := by
  have hclient : ∀ reason, (GatewayError.malformedRequest reason).isServerFault = false := fun _ => rfl
  cases t with
  | read | list =>
    simp only [Request.blames, List.mem_cons, List.not_mem_nil, or_false] at h
    rcases h with rfl | rfl <;> rfl
  | invoke name =>
    simp only [Request.blames] at h
    cases hbody : Service.invocationBody r.body with
    | error e' =>
      obtain ⟨reason, rfl⟩ := Service.invocationBody_error hbody
      rw [hbody, List.mem_singleton] at h
      exact h ▸ hclient reason
    | ok body =>
      rw [hbody] at h
      simp only [List.mem_append, List.mem_cons, List.not_mem_nil, or_false, List.mem_map] at h
      rcases h with (rfl | rfl) | ⟨f, -, rfl⟩ <;> rfl
  | register =>
    simp only [Request.blames, List.mem_cons] at h
    rcases h with rfl | h
    · rfl
    · cases hbody : Service.registrationBody r.body with
      | error e' =>
        obtain ⟨reason, rfl⟩ := Service.registrationBody_error hbody
        rw [hbody, List.mem_singleton] at h
        exact h ▸ hclient reason
      | ok registration =>
        rw [hbody] at h
        obtain ⟨field, -, rfl⟩ := List.mem_map.mp h
        exact hclient _

end Kinds

def Request.faultOf (r : Request) (catalog : Catalog) (kind : String) : GatewayError :=
  ((r.task?.toList.flatMap (r.blames catalog)).find? fun e => e.kind = kind).getD (.internal "")

namespace Run

variable {x y : Run} {r : Request} {e f : GatewayError}

theorem answer_eq_faultOf (hown : x.service.gateway.registry.IsOwn) (h : x.FailsWith r e) :
    x.answer r = x.service.reply r (.error (r.faultOf x.service.gateway.catalog e.kind)) := by
  obtain ⟨t, ht, he⟩ := h
  rw [answer, Service.handle_of_task ht, he]
  have hblames : r.task?.toList.flatMap (r.blames x.service.gateway.catalog) =
      r.blames x.service.gateway.catalog t := by
    simp [ht]
  unfold Request.faultOf
  rw [hblames]
  cases hfind : (r.blames x.service.gateway.catalog t).find? (fun e' => e'.kind = e.kind) with
  | none =>
    -- a fault of the client would have been found
    have hserver : e.isServerFault = true := by
      rcases Service.perform_error hown he with hserver | hmem
      · exact hserver
      · have hne := List.find?_eq_none.mp hfind e hmem
        simp at hne
    rw [Service.reply_of_isServerFault hserver]
    exact (Service.reply_of_isServerFault rfl).symm
  | some f =>
    have hmem := List.mem_of_find?_eq_some hfind
    have hkind : f.kind = e.kind := by simpa using List.find?_some hfind
    have hclient := isServerFault_of_mem_blames hmem
    rcases Service.perform_error hown he with hserver | hmem'
    · -- faults of one kind are all of the server or all of the client
      rw [GatewayError.isServerFault_eq, hkind, ← GatewayError.isServerFault_eq, hserver] at hclient
      cases hclient
    · rw [List.inj_on_of_nodup_map (nodup_kinds r _ t) hmem hmem' hkind]
      rfl

end Run

/-- Two runs of a request that fail by faults of the server are answered with one text, whatever is held
and however the store complains. Two runs that fail by faults of the client of one kind are answered alike
too, if they go by the same schemas; what they are told is up to the request, the schemas and the kind. -/
theorem failures_alike :
    (∀ (r : Request) (x y : Run) (e f : GatewayError), x.service.cors = y.service.cors →
      x.FailsWith r e → y.FailsWith r f → e.isServerFault = true → f.isServerFault = true →
      x.answer r = y.answer r ∧ (x.answer r).status = 500 ∧
        (x.answer r).body = if r.method = "HEAD" then "" else "Internal Server Error") ∧
    (∀ (r : Request) (x y : Run) (e f : GatewayError), x.service.cors = y.service.cors →
      x.service.gateway.catalog = y.service.gateway.catalog → x.service.adminKey = y.service.adminKey →
      x.service.gateway.registry.IsOwn → y.service.gateway.registry.IsOwn →
      x.FailsWith r e → y.FailsWith r f → e.isServerFault = false → e.kind = f.kind →
      x.answer r = y.answer r) ∧
    ∃ bodyOf : Request → Catalog → String → String, ∀ (r : Request) (x : Run) (e : GatewayError),
      x.service.gateway.registry.IsOwn → x.FailsWith r e →
      (x.answer r).body = bodyOf r x.service.gateway.catalog e.kind := by
  refine ⟨fun r x y e f hcors hx hy he hf => ?_,
    fun r x y e f hcors hcatalog hadmin hownx howny hx hy he hkind => ?_,
    fun r catalog kind => (r.trim (Service.answer id (.error (r.faultOf catalog kind)))).body,
    fun r x e hown hx => ?_⟩
  · rw [Run.answer_of_failsWith hx, Run.answer_of_failsWith hy, Service.reply_of_isServerFault he,
      Service.reply_of_isServerFault hf, hcors]
    refine ⟨rfl, by simp [Response.text], ?_⟩
    unfold Cors.mark Request.trim
    split <;> rfl
  · rw [Run.answer_eq_faultOf hownx hx, Run.answer_eq_faultOf howny hy, hcatalog, hkind, Service.reply,
      Service.reply, hcors]
  · rw [Run.answer_eq_faultOf hown hx]
    rfl

theorem failures_alike_other_store :
    let d (id : Int) (template : String) : Definition := ⟨id, "items", "POST", "k1", template, "today"⟩
    let r : Request := ⟨"POST", "/api/dynamic/items", [("X-Api-Key", "k1".toUTF8)], "\x7b\x7d".toUTF8⟩
    let run (catalog : Catalog) (medium : Medium) (ds : List Definition) : Run :=
      ⟨⟨⟨.inMemory, catalog⟩, none, .anyOrigin⟩, ⟨"", 0, ""⟩,
        ⟨{ holdings := ⟨⟨"gate.db", medium, none⟩, ds⟩, journal := { threshold := .fatal } }, {}⟩⟩
    let x := run .empty (.unopenable "disk I/O error") [d 1 "SELECT 1"]
    let y := run .empty .foreign [d 1 "DELETE FROM t"]
    let v := run (.ofConfig [("Items", ["name"])]) .fleeting [d 1 "SELECT 1"]
    let w := run (.ofConfig [("Items", ["name"])]) .foreign [d 1 "SELECT 2", d 2 "SELECT 1"]
    (∃ e f, e ≠ f ∧ x.FailsWith r e ∧ y.FailsWith r f ∧ x.answer r = y.answer r ∧
      (x.answer r).status = 500 ∧ (x.answer r).body = "Internal Server Error") ∧
    ∃ e, v.FailsWith r e ∧ w.FailsWith r e ∧ v.answer r = w.answer r := by
  intro d r run x y v w
  have ht : r.task? = some (.invoke "items".toList) := by decide +kernel
  let e : GatewayError := .executionFailed (.store (.cannotOpen "gate.db" "disk I/O error"))
  let f : GatewayError := .executionFailed (.store (.sql .notADatabase))
  let lacking : GatewayError := .validationRejected (.missingFields 1 ["name"])
  have hx : x.FailsWith r e := ⟨_, ht, by decide +kernel⟩
  have hy : y.FailsWith r f := ⟨_, ht, by decide +kernel⟩
  have hv : v.FailsWith r lacking := ⟨_, ht, by decide +kernel⟩
  have hw : w.FailsWith r lacking := ⟨_, ht, by decide +kernel⟩
  obtain ⟨hserver, hclient, -⟩ := failures_alike
  obtain ⟨halike, hstatus, hbody⟩ := hserver r x y e f rfl hx hy rfl rfl
  exact ⟨⟨e, f, by decide, hx, hy, halike, hstatus, hbody⟩,
    lacking, hv, hw, hclient r v w lacking lacking rfl rfl rfl (.inr rfl) (.inr rfl) hv hw rfl rfl⟩

end Http

end EndpointGate
