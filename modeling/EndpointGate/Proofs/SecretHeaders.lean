import EndpointGate.Proofs.AdminGuard
import EndpointGate.Proofs.FailureAnswers
import EndpointGate.Proofs.KeptRegistrations
import EndpointGate.Server

/-! Secrets come as texts, in configurations and registrations, and come back as the octets of a header.
Those that have visible characters only give access wherever they were set. Any other is accepted too, but no
header is read as one. -/

namespace EndpointGate

namespace Gateway

variable {g : Gateway} {key : EndpointKey} {credential : String} {h : Holdings} {e : GatewayError}

theorem resolve_offered {endpoint method : String}
    (hoffers : g.registry.Offers h (.of endpoint method) credential) (hfilled : credential.isEmpty = false)
    (he : g.resolve endpoint method (some credential) h = .error e) : e.isServerFault = true := by
  simp only [resolve, hfilled, Bool.false_eq_true, if_false] at he
  split at he
  · rename_i e' _
    rw [← Except.error.inj he]
    exact GatewayError.isServerFault_ofResolution e'
  · rename_i hnone
    obtain ⟨d, hd, -⟩ := hoffers none hnone
    cases hd
  · rename_i d hd
    obtain ⟨d', hd', hadmits⟩ := hoffers (some d) hd
    obtain rfl := Option.some.inj hd'
    rw [if_pos hadmits] at he
    cases he

theorem serve_offered {q : GatewayRequest} {s : Running} (hc : q.credential = some credential)
    (hfilled : credential.isEmpty = false)
    (hoffers : g.registry.Offers s.holdings (.of q.endpoint q.method) credential)
    (he : (g.serve q s).1 = .error e) : e.status ≠ 401 := by
  have hfault : e.isServerFault = true → e.status ≠ 401 := by
    intro hfault
    rw [GatewayError.status_of_isServerFault hfault]
    decide
  rcases serve_error he with hresolve | hwork | hserver
  · rw [hc] at hresolve
    exact hfault (resolve_offered hoffers hfilled hresolve)
  · cases q with
    | read => cases hwork
    | invoke i =>
      obtain ⟨f, -, rfl⟩ := workOf_error hwork
      simp [GatewayError.status]
  · exact hfault hserver

end Gateway

namespace Http

def Task.key? (r : Request) : Task → Option EndpointKey
  | .read name _ => some (.of (Service.segment name) "GET")
  | .invoke name => some (.of (Service.segment name) r.method)
  | .register | .list => none

namespace Request

def AsksFor (r : Request) (key : EndpointKey) : Prop :=
  r.method = key.method ∧ ∃ route name, Route.ofPath? r.path = some route ∧ Service.Names route name ∧
    decodeSegment name = some key.name

def IsReadable (r : Request) : Prop :=
  ∃ t, r.task? = some t ∧ ∀ name, t = .invoke name → ∃ body, Service.invocationBody r.body = .ok body

end Request

def servedMethods : List String := ["GET", "POST", "PUT", "DELETE"]

section Tasks

variable {s : Service} {moment : Moment} {r : Request} {st : Serving} {t : Task} {key : EndpointKey}

theorem key_of_task (h : r.AsksFor key) (hserved : key.method ∈ servedMethods) (ht : r.task? = some t) :
    t.key? r = some key := by
  obtain ⟨hmethod, route, name, hroute, hnames, hname⟩ := h
  obtain ⟨route', hroute', hfits, htask⟩ := Service.task?_eq_some_iff.mp ht
  obtain rfl := Option.some.inj (hroute.symm.trans hroute')
  have hsegment : Service.segment name = key.name := by rw [Service.segment, hname, Option.getD_some]
  have hupper : ∀ method ∈ servedMethods, Text.upperAscii method = method := by decide +kernel
  have hkey : EndpointKey.of (Service.segment name) r.method = key := by
    rw [EndpointKey.of, hsegment, hmethod, hupper key.method hserved]
  rw [← hmethod] at hserved
  -- a request by HEAD would be dealt with as one by GET
  have hnothead : r.method ≠ "HEAD" := fun hhead => absurd (hhead ▸ hserved) (by decide)
  rw [Request.verb, if_neg hnothead] at htask
  rcases hnames with rfl | ⟨id, rfl⟩
  · by_cases hget : r.method = "GET"
    · obtain rfl : Task.read name none = t := by simpa [Route.task?, hget] using htask
      rw [Task.key?, ← hget, hkey]
    · obtain rfl : Task.invoke name = t := by simpa [Route.task?, hget] using htask
      rw [Task.key?, hkey]
  · obtain rfl : Task.read name (some id) = t := by simpa [Route.task?] using htask
    have hget : r.method = "GET" := by
      simp only [Request.fits, Route.methods, Bool.and_eq_true, List.contains_eq_mem, decide_eq_true_eq,
        List.mem_cons, List.not_mem_nil, or_false] at hfits
      rcases hfits.1.1 with hget | hhead
      · exact hget
      · exact absurd hhead hnothead
    rw [Task.key?, ← hget, hkey]

theorem perform_offered {credential : String} {e : GatewayError} (hkey : t.key? r = some key)
    (hread : r.key = some credential) (hfilled : credential.isEmpty = false)
    (hoffers : s.gateway.registry.Offers st.running.holdings key credential)
    (he : (s.perform moment r st t).1 = .error e) : e.status ≠ 401 := by
  cases t with
  | register | list => cases hkey
  | read name id =>
    obtain rfl := Option.some.inj hkey
    let q := GatewayRequest.read ⟨Service.segment name, r.key,
      Service.readFields (id.map Service.segment) (queryFields r.query)⟩
    have hserve : (s.gateway.serve q st.running).1 = .error e :=
      congrArg (Except.map Served.rows) (Service.error_of_map he)
    exact Gateway.serve_offered (q := q) hread hfilled hoffers hserve
  | invoke name =>
    obtain rfl := Option.some.inj hkey
    simp only [Service.perform] at he
    cases hbody : Service.invocationBody r.body with
    | error e' =>
      rw [hbody] at he
      obtain rfl := Except.error.inj he
      obtain ⟨reason, rfl⟩ := Service.invocationBody_error hbody
      simp [GatewayError.status]
    | ok body =>
      rw [hbody] at he
      let q := GatewayRequest.invoke ⟨Service.segment name, r.method, r.key, body⟩
      have hserve : (s.gateway.serve q st.running).1 = .error e :=
        congrArg (Except.map Served.outcome) (Service.error_of_map he)
      exact Gateway.serve_offered (q := q) hread hfilled hoffers hserve

theorem perform_without_key (hkey : t.key? r = some key) (hread : r.key = none)
    (hbody : ∀ name, t = .invoke name → ∃ body, Service.invocationBody r.body = .ok body) :
    (s.perform moment r st t).1 = .error .authRejected := by
  cases t with
  | register | list => cases hkey
  | read name id =>
    let q : ReadRequest := ⟨Service.segment name, r.key,
      Service.readFields (id.map Service.segment) (queryFields r.query)⟩
    have hserve := Gateway.serve_without_credential (g := s.gateway) (q := .read q)
      (show q.credential.filter (· ≠ "") = none by simp [q, hread]) st.running
    have hrefused := Service.error_of_map hserve
    simp only [Service.perform]
    rw [show (s.gateway.read q st.running).1 = .error .authRejected from hrefused]
    rfl
  | invoke name =>
    obtain ⟨body, hbody⟩ := hbody name rfl
    let q : Invocation := ⟨Service.segment name, r.method, r.key, body⟩
    have hserve := Gateway.serve_without_credential (g := s.gateway) (q := .invoke q)
      (show q.credential.filter (· ≠ "") = none by simp [q, hread]) st.running
    have hrefused := Service.error_of_map hserve
    simp only [Service.perform, hbody]
    rw [show (s.gateway.invoke q st.running).1 = .error .authRejected from hrefused]
    rfl

@[simp] theorem status_reply_error (e : GatewayError) : (s.reply r (.error e)).status = e.status := by
  simp [Service.reply, Service.answer, Service.ofGatewayError, Response.text]

theorem status_reply_ok (j : Json) : (s.reply r (.ok j)).status = 200 := by
  simp [Service.reply, Service.answer, Response.json]

theorem isGateway_of_names {route : Route} {name : List Char} (h : Service.Names route name) :
    route.IsGateway := by
  intro method
  rcases h with rfl | ⟨id, rfl⟩
  · exact Option.isSome_some
  · exact Option.isSome_some

theorem handle_offered {credential : String} (h : r.AsksFor key) (hserved : key.method ∈ servedMethods)
    (hread : r.key = some credential) (hfilled : credential.isEmpty = false)
    (hoffers : s.gateway.registry.Offers st.running.holdings key credential) :
    (s.handle moment r st).1.status ≠ 401 := by
  cases ht : r.task? with
  | none =>
    -- what is not handed on is not asked for a credential
    obtain ⟨-, route, name, hroute, hnames, -⟩ := h
    obtain ⟨a, hstatus, ha⟩ := Service.handle_of_no_task hroute (isGateway_of_names hnames) ht
    rw [ha, Cors.status_mark]
    intro hrefused
    rw [hrefused] at hstatus
    exact absurd hstatus (by decide)
  | some t =>
    rw [Service.handle_of_task ht]
    cases hresult : (s.perform moment r st t).1 with
    | ok j =>
      rw [status_reply_ok]
      decide
    | error e =>
      rw [status_reply_error]
      exact perform_offered (key_of_task h hserved ht) hread hfilled hoffers hresult

theorem handle_without_key (h : r.AsksFor key) (hserved : key.method ∈ servedMethods)
    (hread : r.key = none) (hreadable : r.IsReadable) : (s.handle moment r st).1.status = 401 := by
  obtain ⟨t, ht, hbody⟩ := hreadable
  rw [Service.handle_of_task ht, perform_without_key (key_of_task h hserved ht) hread hbody,
    status_reply_error]
  rfl

end Tasks

/-- A request with the octets of a secret that is the key of an accepted configuration passes the check of
the administrator exactly if the secret is visible. A request for an endpoint by the method and with the
octets of a secret that is the credential of an accepted registration is not refused for want of access if
the secret is visible; if not, it is, once it is handed on and its body can be read. -/
theorem visible_secrets_usable (secret : String) :
    (∀ (c : Config) (s : Service) (r : Request), c.validate = .ok () → c.adminKey = some secret →
      Server.serviceOf c = .ok s → r.header? "x-admin-key" = some secret.toUTF8 →
      (s.checkAdmin r = .ok () ↔ Visible secret)) ∧
    (∀ (s : Service) (moment : Moment) (r : Request) (st : Serving) (path : String)
      (history : List (RegistryCall × RegistryAnswer)) (now : String) (registration : Registration)
      (id : Int), s.gateway.registry.IsOwn → s.gateway.registry.Lives path history st.running.holdings →
      Registered now registration id ∈ history → registration.credential = secret →
      registration.key.method ∈ servedMethods → r.AsksFor registration.key →
      r.header? "x-api-key" = some secret.toUTF8 →
      (Visible secret → (s.handle moment r st).1.status ≠ 401) ∧
        (¬Visible secret → r.IsReadable → (s.handle moment r st).1.status = 401)) := by
  refine ⟨fun c s r _ hkey hservice hheader => ?_, ?_⟩
  · have hadmin : s.adminKey = some secret := by
      unfold Server.serviceOf at hservice
      split at hservice
      · cases hservice
      · rw [← Except.ok.inj hservice]
        exact hkey
    rw [Service.checkAdmin_eq_ok_iff hadmin]
    exact and_iff_right hheader
  · rintro s moment r st path history now registration id hown hlife hreg rfl hserved hasks hheader
    obtain ⟨hoffers, hfilled⟩ := hlife.offers hown hreg
    have hread : r.key = if Visible registration.credential then some registration.credential else none :=
      Request.headerText?_eq hheader
    refine ⟨fun hvisible => ?_, fun hinvisible hreadable => ?_⟩
    · rw [if_pos hvisible] at hread
      exact handle_offered hasks hserved hread hfilled hoffers
    · rw [if_neg hinvisible] at hread
      exact handle_without_key hasks hserved hread hreadable

theorem visible_secrets_usable_blank :
    let c : Config := { databasePath := "gate.db", adminKey := some "a\tb" }
    let administering : Request := ⟨"GET", "/api/endpoints", [("X-Admin-Key", "a\tb".toUTF8)], .empty⟩
    let registration : Registration := ⟨"items", " post ", "k 1", "SELECT 1"⟩
    let asking : Request := ⟨"POST", "/api/dynamic/items?n=1", [("X-Api-Key", "k 1".toUTF8)], .empty⟩
    let s : Service := ⟨⟨.inStore, .empty⟩, none, .anyOrigin⟩
    (∃ t, Server.serviceOf c = .ok t ∧ (t.checkAdmin administering = .ok () ↔ Visible "a\tb")) ∧
      ∃ history held, Registry.inStore.Lives "gate.db" history held ∧
        Registered "2024-01-01 00:00:00Z" registration 1 ∈ history ∧
        (s.handle ⟨"", 0, ""⟩ asking
          ⟨{ holdings := held, journal := { threshold := .fatal } }, {}⟩).1.status ≠ 401 := by
  intro c administering registration asking s
  have hadmin := (visible_secrets_usable "a\tb").1
  have hendpoint := (visible_secrets_usable "k 1").2
  have hvalid : c.validate = .ok () := toOption_eq_some (by decide +kernel)
  have hservice : Server.serviceOf c = .ok ⟨Server.gatewayOf c, c.adminKey, c.listener.cors⟩ :=
    if_neg (by decide +kernel)
  have hasks : asking.AsksFor registration.key :=
    ⟨by decide +kernel, .dynamic "items".toList, "items".toList, by decide +kernel, .inl rfl,
      by decide +kernel⟩
  refine ⟨⟨_, hservice, hadmin c _ administering hvalid rfl hservice (by decide +kernel)⟩, ?_⟩
  -- said of any store, or the opening is carried out when the types are compared
  have hfirst : ∀ t : Store, t.Keeps [] →
      (Registry.inStore.register "2024-01-01 00:00:00Z" registration { store := t }).1 = .ok 1 := by
    intro t ht
    have hnumbered : Numbered [] := fun n hn => by cases hn
    exact (ht.register hnumbered (by decide) (by decide +kernel) "2024-01-01 00:00:00Z").1
  have hanswered : ∀ history held, Registry.inStore.Lives "gate.db" history held →
      Registered "2024-01-01 00:00:00Z" registration 1 ∈ history →
      (s.handle ⟨"", 0, ""⟩ asking
        ⟨{ holdings := held, journal := { threshold := .fatal } }, {}⟩).1.status ≠ 401 := by
    intro history held hlife hreg
    exact (hendpoint s _ asking _ "gate.db" history _ registration 1 (.inl rfl) hlife hreg rfl
      (by decide +kernel) hasks (by decide +kernel)).1 (by decide)
  have hkeeps := (Store.keeps_of_open (s := { path := "gate.db", medium := .database [] }) rfl rfl).2
  have hlife := Registry.Lives.called (.register "2024-01-01 00:00:00Z" registration)
    (Registry.Lives.opened : Registry.inStore.Lives "gate.db" _ _)
  have hreg : Registered "2024-01-01 00:00:00Z" registration 1 ∈ _ :=
    List.mem_singleton.mpr (congrArg (fun x => (_, RegistryAnswer.registered x)) (hfirst _ hkeeps).symm)
  exact ⟨_, _, hlife, hreg, hanswered _ _ hlife hreg⟩

/-- A letter with an accent can stand in a header, and may be a key or a credential; it gives no access. -/
theorem accepted_secrets_refused :
    let c : Config := { databasePath := "gate.db", adminKey := some "é" }
    let s : Service := ⟨Server.gatewayOf c, c.adminKey, c.listener.cors⟩
    let administering : Request := ⟨"GET", "/api/endpoints", [("x-admin-key", "é".toUTF8)], .empty⟩
    let registration : Registration := ⟨"items", "GET", "é", "SELECT 1 AS v"⟩
    let asking : Request := ⟨"GET", "/api/dynamic/items", [("x-api-key", "é".toUTF8)], .empty⟩
    let m : Service := ⟨⟨.inMemory, .empty⟩, none, .anyOrigin⟩
    let (id, held) := Registry.inMemory.register "today" registration { store := ⟨"gate.db", .foreign, none⟩ }
    Cors.isHeaderValue "é" = true ∧ c.validate.toOption = some () ∧ Server.serviceOf c = .ok s ∧
      (s.checkAdmin administering).toOption = none ∧ id.toOption = some 1 ∧
      (m.handle ⟨"", 0, ""⟩ asking
        ⟨{ holdings := held, journal := { threshold := .fatal } }, {}⟩).1.status = 401 := by
  exact ⟨by decide +kernel, by decide +kernel, if_neg (by decide +kernel), by decide +kernel,
    by decide +kernel, by decide +kernel⟩

end Http

end EndpointGate
