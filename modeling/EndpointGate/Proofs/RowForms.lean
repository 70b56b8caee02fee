import EndpointGate.Proofs.BodyForms
import EndpointGate.Proofs.RequestAccounts
import EndpointGate.Proofs.RequestTasks

/-! One row alone and a batch of one. Where there is a descriptor, the gateway makes the same of both forms,
whatever becomes of the row. Where there is none, a batch is refused and the row alone is run. -/

namespace EndpointGate

namespace Gateway

variable {g : Gateway} {endpoint method : String} {credential : Option String} {body body' : InvocationBody}
  {row : Row} {d : Descriptor}

theorem invoke_of_batchOf (h : g.batchOf endpoint body = g.batchOf endpoint body') (s : Running) :
    g.invoke ⟨endpoint, method, credential, body⟩ s = g.invoke ⟨endpoint, method, credential, body'⟩ s := by
  have hrun : g.runInvocation ⟨endpoint, method, credential, body⟩ =
      g.runInvocation ⟨endpoint, method, credential, body'⟩ := by
    simp only [runInvocation, h]
  simp only [invoke, hrun]

theorem course_of_batchOf (h : g.batchOf endpoint body = g.batchOf endpoint body') (held : Holdings) :
    g.course (.invoke ⟨endpoint, method, credential, body⟩) held =
      g.course (.invoke ⟨endpoint, method, credential, body'⟩) held := by
  simp only [course, workOf, h]
  rfl

theorem batchOf_one (hd : g.catalog.get? endpoint = some d) (row : Row) :
    g.batchOf endpoint (.single row) = g.batchOf endpoint (.batch [row]) := by
  simp only [batchOf, hd]
  rfl

theorem batchOf_alone (hd : g.catalog.get? endpoint = none) (row : Row) :
    g.batchOf endpoint (.single row) = .ok (.single row) := by
  simp only [batchOf, hd]

theorem batchOf_batch (hd : g.catalog.get? endpoint = none) (row : Row) :
    g.batchOf endpoint (.batch [row]) = .error (.validationRejected (.unknownDescriptor endpoint)) := by
  simp only [batchOf, hd]
  rfl

theorem invoke_of_unresolved {i : Invocation} {e : GatewayError} {s : Running}
    (he : g.resolve i.endpoint i.method i.credential s.holdings = .error e) :
    (g.invoke i s).1 = .error e ∧ (g.invoke i s).2.holdings = s.holdings := by
  obtain ⟨c, -, hheld, hinvoke⟩ := invoke_of_run g i s
  obtain ⟨h₁, h₂⟩ := hinvoke _ _ (run_of_refused (hheld.symm ▸ he))
  exact ⟨h₁, h₂.trans hheld⟩

theorem invoke_of_unfit {i : Invocation} {found : Definition} {e : GatewayError} {s : Running}
    (hfound : g.resolve i.endpoint i.method i.credential s.holdings = .ok found)
    (he : g.batchOf i.endpoint i.body = .error e) :
    (g.invoke i s).1 = .error e ∧ (g.invoke i s).2.holdings = s.holdings := by
  obtain ⟨c, hstate, hheld, hinvoke⟩ := invoke_of_run g i s
  obtain ⟨c', hrun, hh⟩ := run_of_unfit hstate (hheld.symm ▸ hfound) he
  obtain ⟨h₁, h₂⟩ := hinvoke _ _ hrun
  exact ⟨h₁, h₂.trans (hh.trans hheld)⟩

theorem invoke_of_fit {i : Invocation} {found : Definition} {b : Batch} {s : Running}
    (hfound : g.resolve i.endpoint i.method i.credential s.holdings = .ok found)
    (hb : g.batchOf i.endpoint i.body = .ok b) :
    (g.invoke i s).1 =
      (Engine.execute ⟨found.sqlTemplate⟩ b s.holdings.store s.journal).1.mapError .executionFailed := by
  obtain ⟨c, hstate, hheld, hinvoke⟩ := invoke_of_run g i s
  obtain ⟨c', hrun, -⟩ := run_of_fit hstate (hheld.symm ▸ hfound) hb s.journal
  rw [(hinvoke _ _ hrun).1, hheld]

theorem executing_mem_path {i : Invocation} {found : Definition} {b : Batch} {held : Holdings}
    (hfound : g.resolve i.endpoint i.method i.credential held = .ok found)
    (hb : g.batchOf i.endpoint i.body = .ok b) : .executing ∈ g.path (.invoke i) held := by
  rw [path_eq]
  simp only [course, GatewayRequest.endpoint, GatewayRequest.method, GatewayRequest.credential, hfound, workOf,
    hb, Except.map]
  split <;> simp [Course.path]

end Gateway

namespace Http.Service

open Json (IsJson)

variable {s : Service} {moment : Moment} {r r' : Request} {st : Serving} {name : List Char}
  {body body' : InvocationBody}

theorem handle_of_invocation (octets : ByteArray) (ht : r.task? = some (.invoke name))
    (ht' : { r with body := octets }.task? = some (.invoke name))
    (hbody : invocationBody r.body = .ok body) (hbody' : invocationBody octets = .ok body')
    (h : s.gateway.batchOf (segment name) body = s.gateway.batchOf (segment name) body') :
    s.handle moment r st = s.handle moment { r with body := octets } st := by
  rw [handle_of_task ht, handle_of_task ht']
  have hperform : s.perform moment r st (.invoke name) =
      s.perform moment { r with body := octets } st (.invoke name) := by
    simp only [perform, hbody, hbody']
    rw [Gateway.invoke_of_batchOf h]
    rfl
  rw [hperform]
  rfl

/-- One row alone and a batch of one: with a descriptor the same becomes of them, over HTTP too, where the
row has no list under `rows`. Without one, of requests that are looked up a batch is refused and a row alone
is run. -/
theorem one_row_forms (s : Service) (endpoint method : String) (credential : Option String) (row : Row) :
    let g := s.gateway
    let alone : Invocation := ⟨endpoint, method, credential, .single row⟩
    let batch : Invocation := ⟨endpoint, method, credential, .batch [row]⟩
    (∀ d, g.catalog.get? endpoint = some d →
      (∀ run : Running, g.invoke alone run = g.invoke batch run) ∧
      (∀ held : Holdings, g.path (.invoke alone) held = g.path (.invoke batch) held) ∧
      (¬InvocationBody.HasRows row →
        InvocationBody.ofJson (.obj row) = .ok alone.body ∧
        InvocationBody.ofJson (.obj [("rows", .arr [.obj row])]) = .ok batch.body ∧
        ∀ (moment : Moment) (r : Request) (octets : ByteArray) (name : List Char) (st : Serving),
          segment name = endpoint → r.task? = some (.invoke name) →
          { r with body := octets }.task? = some (.invoke name) → IsJson 127 r.body (.obj row) →
          IsJson 127 octets (.obj [("rows", .arr [.obj row])]) →
          s.handle moment r st = s.handle moment { r with body := octets } st)) ∧
    (g.catalog.get? endpoint = none → ∀ run : Running,
      match g.resolve endpoint method credential run.holdings with
      | .error e => (g.invoke alone run).1 = .error e ∧ (g.invoke batch run).1 = .error e
      | .ok d => (g.invoke batch run).1 = .error (.validationRejected (.unknownDescriptor endpoint)) ∧
        (g.invoke batch run).2.holdings = run.holdings ∧
        (g.invoke alone run).1 = (Engine.execute ⟨d.sqlTemplate⟩ (.single row) run.holdings.store
          run.journal).1.mapError .executionFailed ∧
        .executing ∈ g.path (.invoke alone) run.holdings) := by
  intro g alone batch
  refine ⟨fun d hd => ?_, fun hd run => ?_⟩
  · have hsame : g.batchOf endpoint alone.body = g.batchOf endpoint batch.body := Gateway.batchOf_one hd row
    refine ⟨Gateway.invoke_of_batchOf hsame, fun held => ?_, fun hrows => ?_⟩
    · rw [Gateway.path_eq, Gateway.path_eq, Gateway.course_of_batchOf hsame]
    · have hone : InvocationBody.ofJson (.obj row) = .ok alone.body :=
        InvocationBody.ofJson_of_not_hasRows hrows
      have hbatch : InvocationBody.ofJson (.obj [("rows", .arr [.obj row])]) = .ok batch.body := rfl
      refine ⟨hone, hbatch, ?_⟩
      rintro moment r octets name st rfl ht ht' hjson hjson'
      exact handle_of_invocation octets ht ht' ((invocationBody_of_json hjson).trans hone)
        ((invocationBody_of_json hjson').trans hbatch) hsame
  · split
    · rename_i e he
      exact ⟨(Gateway.invoke_of_unresolved (i := alone) he).1, (Gateway.invoke_of_unresolved (i := batch) he).1⟩
    · rename_i found hfound
      have hunfit := Gateway.invoke_of_unfit (i := batch) hfound (Gateway.batchOf_batch hd row)
      have hfit := Gateway.batchOf_alone hd row
      exact ⟨hunfit.1, hunfit.2, Gateway.invoke_of_fit (i := alone) hfound hfit,
        Gateway.executing_mem_path (i := alone) hfound hfit⟩

theorem one_row_forms_inserted :
    let registration : Registration := ⟨"items", "POST", "k1", "INSERT INTO t VALUES ($name$)"⟩
    let run : Running := {
      holdings := (Registry.inMemory.register "today" registration { store := ⟨"gate.db", .foreign, none⟩ }).2
      journal := { threshold := .fatal } }
    let s : Service := ⟨⟨.inMemory, .ofConfig [("Items", ["name"])]⟩, none, .anyOrigin⟩
    let plain : Service := ⟨⟨.inMemory, .empty⟩, none, .anyOrigin⟩
    let row : Row := [("name", .str "x")]
    let r : Request := ⟨"POST", "/api/dynamic/items", [("x-api-key", "k1".toUTF8)],
      "\x7b\"name\":\"x\"\x7d".toUTF8⟩
    let octets : ByteArray := "\x7b\"rows\":[\x7b\"name\":\"x\"\x7d]\x7d".toUTF8
    s.gateway.invoke ⟨"items", "POST", some "k1", .single row⟩ run =
      s.gateway.invoke ⟨"items", "POST", some "k1", .batch [row]⟩ run ∧
    s.handle ⟨"", 0, ""⟩ r ⟨run, {}⟩ = s.handle ⟨"", 0, ""⟩ { r with body := octets } ⟨run, {}⟩ ∧
    (plain.gateway.invoke ⟨"items", "POST", some "k1", .batch [row]⟩ run).1 =
      .error (.validationRejected (.unknownDescriptor "items")) := by
  intro registration run s plain row r octets
  obtain ⟨d, hd⟩ : ∃ d, s.gateway.catalog.get? "items" = some d :=
    Option.isSome_iff_exists.mp (by decide +kernel)
  obtain ⟨found, hfound⟩ : ∃ found, plain.gateway.resolve "items" "POST" (some "k1") run.holdings = .ok found := by
    obtain ⟨found, hfound⟩ := Option.isSome_iff_exists.mp
      (show (plain.gateway.resolve "items" "POST" (some "k1") run.holdings).toOption.isSome by decide +kernel)
    exact ⟨found, toOption_eq_some hfound⟩
  have hdescribed := (one_row_forms s "items" "POST" (some "k1") row).1 d hd
  have hplain := (one_row_forms plain "items" "POST" (some "k1") row).2 (by decide +kernel) run
  rw [hfound] at hplain
  have hjson : IsJson 127 r.body (.obj row) :=
    Json.isJson_of_read (s := "\x7b\"name\":\"x\"\x7d") (by decide +kernel)
  have hjson' : IsJson 127 octets (.obj [("rows", .arr [.obj row])]) :=
    Json.isJson_of_read (s := "\x7b\"rows\":[\x7b\"name\":\"x\"\x7d]\x7d") (by decide +kernel)
  refine ⟨hdescribed.1 run, ?_, hplain.1⟩
  exact (hdescribed.2.2 (by rintro ⟨items, hitems⟩; cases hitems)).2.2 _ r octets "items".toList _
    (by decide +kernel) (by decide +kernel) (by decide +kernel) hjson hjson'

/-- A batch without a descriptor is not refused as such when there is no credential with it. -/
theorem batch_without_credential : ¬∀ (g : Gateway) (endpoint method : String) (credential : Option String)
    (row : Row) (run : Running), g.catalog.get? endpoint = none →
      (g.invoke ⟨endpoint, method, credential, .batch [row]⟩ run).1 =
        .error (.validationRejected (.unknownDescriptor endpoint)) := by
  intro h
  have hrefused := h ⟨.inMemory, .empty⟩ "items" "POST" none [("name", .str "x")]
    { holdings := { store := ⟨"gate.db", .foreign, none⟩ }, journal := { threshold := .fatal } } rfl
  rw [(Gateway.invoke_of_unresolved rfl).1] at hrefused
  cases hrefused

end Http.Service

end EndpointGate
