import EndpointGate.Http.Service
import EndpointGate.Proofs.EndpointLookup
import EndpointGate.Proofs.RequestCourse

/-! Requests that match no definition. Whether the name is unknown, or only the method or the credential is
wrong, is told neither by the answer nor by what is logged, counted and kept; and the answer is that to a
request without a credential. -/

namespace EndpointGate

def Served.json : Served → Json
  | .outcome o => Http.Service.outcomeJson o
  | .rows list => Http.Service.rowsJson list

namespace GatewayRequest

def withCredential (credential : Option String) : GatewayRequest → GatewayRequest
  | .invoke i => .invoke { i with credential }
  | .read r => .read { r with credential }

variable (q : GatewayRequest) (credential : Option String)

@[simp] theorem withCredential_endpoint : (q.withCredential credential).endpoint = q.endpoint := by
  cases q <;> rfl

@[simp] theorem withCredential_method : (q.withCredential credential).method = q.method := by
  cases q <;> rfl

@[simp] theorem withCredential_credential : (q.withCredential credential).credential = credential := by
  cases q <;> rfl

end GatewayRequest

def Unmatched (endpoint method credential : String) (ds : List Definition) : Prop :=
  ∀ d ∈ ds, ¬ d.Answers (.of endpoint method) credential

def Running.rejecting (s : Running) (told : List Entry) : Running :=
  { s with metrics := s.metrics.received.rejected, journal := s.journal.tell told }

namespace Gateway

variable {g : Gateway} {q : GatewayRequest}

theorem serve_unmatched {credential : String} {s : Running} (hmem : g.registry = .inMemory)
    (hc : q.credential = some credential) (hne : credential ≠ "")
    (hs : Unmatched q.endpoint q.method credential s.holdings.definitions) :
    g.serve q s =
      (.error .notResolved, s.rejecting ((Course.unresolved .notResolved).lines q)) := by
  have hfind : Memory.resolve (.of q.endpoint q.method) credential s.holdings.definitions = none := by
    rw [Memory.resolve_eq, List.find?_eq_none]
    intro d hd hanswers
    exact hs d hd (of_decide_eq_true hanswers)
  have hcourse : g.course q s.holdings = .unresolved .notResolved := by
    simp [course, resolve, hc, hne, hmem, Registry.inMemory, hfind]
  rw [serve_eq, hcourse]
  rfl

theorem serve_without_credential (hc : q.credential.filter (· ≠ "") = none) (s : Running) :
    (g.serve q s).1 = .error .authRejected := by
  have hcourse : g.course q s.holdings = .unresolved .authRejected := by
    cases h : q.credential with
    | none => simp [course, resolve, h]
    | some credential =>
      have hempty : credential = "" := by simpa [h, Option.filter] using hc
      simp [course, resolve, h, hempty]
  rw [serve_eq, hcourse]
  rfl

end Gateway

namespace Http

def Request.verb (r : Request) : String := if r.method = "HEAD" then "GET" else r.method

def Request.key (r : Request) : Option String := r.headerText? "x-api-key"

def Request.trim (r : Request) (a : Response) : Response :=
  if r.method = "HEAD" then { a with body := "" } else a

/-- The state when a request has been refused by the gateway, which has told so, or before that. -/
def Serving.refusing (s : Serving) : Option (List Entry) → Serving
  | none => s
  | some told => { s with running := s.running.rejecting told }

namespace Service

def respond (x : Except GatewayError Served) : Response := answer Served.json x

theorem respond_refused : respond (.error .authRejected) = respond (.error .notResolved) := rfl

theorem answer_map {α β : Type} (f : α → β) (body : β → Json) (x : Except GatewayError α) :
    answer body (x.map f) = answer (fun a => body (f a)) x := by
  cases x <;> rfl

def Names (route : Route) (name : List Char) : Prop :=
  route = .dynamic name ∨ ∃ id, route = .dynamicRow name id

/-- What becomes of requests of one method, path and body, whatever their headers: they are refused for
what they are, or handed to the gateway with their keys. -/
abbrev Fate := Except Response GatewayRequest

namespace Fate

def Asks (endpoint method : String) (fate : Fate) : Prop :=
  ∀ q, fate = .ok q → q.endpoint = endpoint ∧ q.method = method

def meet (s : Service) (r : Request) (st : Serving) : Fate → Response × Serving
  | .error a => (a, st)
  | .ok q =>
    let (result, running) := s.gateway.serve (q.withCredential r.key) st.running
    (respond result, { st with running })

theorem asks_refusal (a : Response) (endpoint method : String) : Asks endpoint method (.error a) := by
  intro q hq
  cases hq

theorem asks_handed {q : GatewayRequest} {endpoint method : String} (he : q.endpoint = endpoint)
    (hm : q.method = method) : Asks endpoint method (.ok q) := by
  intro q' hq'
  obtain rfl := Except.ok.inj hq'
  exact ⟨he, hm⟩

theorem meet_unmatched {s : Service} {r : Request} {t : Serving} {q : GatewayRequest}
    {credential : String} (hmem : s.gateway.registry = .inMemory) (hkey : r.key = some credential)
    (hne : credential ≠ "")
    (ht : Unmatched q.endpoint q.method credential t.running.holdings.definitions) :
    Fate.meet s r t (.ok q) = (respond (.error .notResolved),
      t.refusing (some ((Course.unresolved .notResolved).lines (q.withCredential credential)))) := by
  have hserve := Gateway.serve_unmatched (q := q.withCredential credential) hmem
    (q.withCredential_credential _) hne (by simpa using ht)
  simp only [meet, hkey, hserve]
  rfl

theorem meet_without_credential {s : Service} {r : Request} {t : Serving} {q : GatewayRequest}
    (hkey : r.key.filter (· ≠ "") = none) :
    (Fate.meet s r t (.ok q)).1 = respond (.error .notResolved) := by
  have hserve := Gateway.serve_without_credential (g := s.gateway) (q := q.withCredential r.key)
    (by simpa using hkey) t.running
  simp only [meet, hserve, respond_refused]

end Fate

variable {r : Request} {name : List Char}

theorem read_fate (s : Service) (id : Option (List Char)) :
    ∃ fate : Fate, fate.Asks (segment name) "GET" ∧
      ∀ headers st, s.read { r with headers } name id st = fate.meet s { r with headers } st := by
  let fields := readFields (id.map segment) (queryFields r.query)
  have hasks : Fate.Asks (segment name) "GET" (.ok (.read ⟨segment name, none, fields⟩)) :=
    Fate.asks_handed rfl rfl
  refine ⟨_, hasks, fun headers st => ?_⟩
  simp only [Fate.meet, Gateway.serve, respond, answer_map, GatewayRequest.withCredential]
  rfl

theorem invoke_fate (s : Service) :
    ∃ fate : Fate, fate.Asks (segment name) r.method ∧
      ∀ headers st, s.invoke { r with headers } name st = fate.meet s { r with headers } st := by
  cases hbody : invocationBody r.body with
  | error e =>
    refine ⟨_, Fate.asks_refusal (ofGatewayError e) _ _, fun headers st => ?_⟩
    simp only [invoke, hbody]
    rfl
  | ok body =>
    have hasks : Fate.Asks (segment name) r.method
        (.ok (.invoke ⟨segment name, r.method, none, body⟩)) :=
      Fate.asks_handed rfl rfl
    refine ⟨_, hasks, fun headers st => ?_⟩
    simp only [Fate.meet, Gateway.serve, respond, answer_map, GatewayRequest.withCredential, invoke,
      hbody]
    rfl

theorem serve_fate (s : Service) (moment : Moment) {route : Route} (h : Names route name)
    (hm : route.methods.contains r.method = true) :
    ∃ fate : Fate, fate.Asks (segment name) r.verb ∧ ∀ headers st,
      s.serve moment { r with headers } route r.verb st = fate.meet s { r with headers } st := by
  -- the checks before the gateway see the route, the method and the body, but no header
  cases hbad : route.badParameter? with
  | some bad =>
    let refusal := Response.text 400 ("Invalid URL: Invalid UTF-8 in \x60" ++ bad ++ "\x60")
    refine ⟨_, Fate.asks_refusal refusal _ _, fun headers st => ?_⟩
    simp only [serve, hbad]
    rfl
  | none =>
    by_cases hlong : takesBody route r.verb && bodyLimit < r.body.size
    · refine ⟨_, Fate.asks_refusal tooLong _ _, fun headers st => ?_⟩
      simp only [serve, hbad, hlong]
      rfl
    · rcases h with rfl | ⟨id, rfl⟩
      · by_cases hget : r.verb = "GET"
        · rw [hget] at hlong ⊢
          simp only [serve, hbad, hlong]
          exact read_fate s none
        · have hhead : r.method ≠ "HEAD" := fun hhead => hget (if_pos hhead)
          have hverb : r.verb = r.method := if_neg hhead
          rw [hverb] at hlong hget ⊢
          simp only [serve, hbad, hlong]
          exact invoke_fate s
      · have hget : r.verb = "GET" := by
          have hmethod : r.method = "GET" ∨ r.method = "HEAD" := by
            simpa [Route.methods] using hm
          rcases hmethod with hget | hhead
          · simp [Request.verb, hget]
          · exact if_pos hhead
        rw [hget] at hlong ⊢
        simp only [serve, hbad, hlong]
        exact read_fate s (some id)

theorem handle_fate (s : Service) (moment : Moment) {route : Route} (h : Names route name)
    (hroute : Route.ofPath? r.path = some route) :
    ∃ fate : Fate, fate.Asks (segment name) r.verb ∧ ∀ headers st,
      s.handle moment { r with headers } st =
        (s.cors.mark { r with headers } (r.trim (fate.meet s { r with headers } st).1),
          (fate.meet s { r with headers } st).2) := by
  have hpath : ∀ headers, Request.path { r with headers } = r.path := fun headers => rfl
  by_cases hoptions : r.method = "OPTIONS"
  · let permission : Response := { status := 200, headers := allowHeader (some route) ++
      [("access-control-allow-methods", "*"), ("access-control-allow-headers", "*")] }
    have hget : r.method ≠ "HEAD" := by simp [hoptions]
    refine ⟨_, Fate.asks_refusal permission _ _, fun headers st => ?_⟩
    have hpreflight : s.handle moment { r with headers } st =
      (s.cors.preflight { r with headers } (allowHeader (Route.ofPath? r.path)), st) := if_pos hoptions
    rw [hpreflight, hroute, Request.trim, if_neg hget]
    rfl
  · by_cases hm : route.methods.contains r.method
    · obtain ⟨fate, hasks, hserve⟩ := serve_fate s moment h hm
      refine ⟨fate, hasks, fun headers st => ?_⟩
      simp only [handle, hpath, hroute, hoptions, hm, ← hserve]
      rfl
    · refine ⟨_, Fate.asks_refusal ⟨405, allowHeader (some route), ""⟩ _ _, fun headers st => ?_⟩
      simp only [handle, hpath, hroute, hoptions, hm]
      rfl

/-- Requests for a name, a method and a credential that no definition has. The gateway answers them
alike, whatever else it holds, and counts and logs them alike; over HTTP too, and there the answer is also
that to the request without a credential. -/
theorem unmatched_alike (s : Service) (hmem : s.gateway.registry = .inMemory)
    {endpoint method credential : String} (hne : credential ≠ "") :
    (∀ q : GatewayRequest, q.endpoint = endpoint → q.method = method →
      q.credential = some credential →
      ∀ s₁ s₂ : Running, Unmatched endpoint method credential s₁.holdings.definitions →
        Unmatched endpoint method credential s₂.holdings.definitions →
      (∃ told, s.gateway.serve q s₁ = (.error .notResolved, s₁.rejecting told) ∧
        s.gateway.serve q s₂ = (.error .notResolved, s₂.rejecting told)) ∧
      ∀ key, key.filter (· ≠ "") = none → ∀ t,
        respond (s.gateway.serve (q.withCredential key) t).1 = respond (s.gateway.serve q s₁).1) ∧
    (∀ (moment : Moment) (r : Request) (route : Route) (name : List Char),
      Route.ofPath? r.path = some route → Names route name → segment name = endpoint →
      r.verb = method → r.key = some credential →
      ∀ s₁ s₂ : Serving, Unmatched endpoint method credential s₁.running.holdings.definitions →
        Unmatched endpoint method credential s₂.running.holdings.definitions →
      (∃ a told, s.handle moment r s₁ = (a, s₁.refusing told) ∧
        s.handle moment r s₂ = (a, s₂.refusing told)) ∧
      ∀ headers, (Request.key { r with headers }).filter (· ≠ "") = none → ∀ t,
        (s.handle moment { r with headers } t).1.status = (s.handle moment r s₁).1.status ∧
        (s.handle moment { r with headers } t).1.body = (s.handle moment r s₁).1.body) := by
  constructor
  · rintro q rfl rfl hc s₁ s₂ h₁ h₂
    have hserve : s.gateway.serve q s₁ = _ := Gateway.serve_unmatched hmem hc hne h₁
    refine ⟨⟨_, hserve, Gateway.serve_unmatched hmem hc hne h₂⟩, fun key hkey t => ?_⟩
    rw [hserve, Gateway.serve_without_credential (by simpa using hkey)]
    exact respond_refused
  · rintro moment r route name hroute hnames rfl rfl hkey s₁ s₂ h₁ h₂
    obtain ⟨fate, hasks, hhandle⟩ := handle_fate s moment hnames hroute
    have hself := hhandle r.headers
    cases fate with
    | error a =>
      refine ⟨⟨_, none, hself s₁, hself s₂⟩, fun headers _ t => ?_⟩
      rw [hhandle, hself s₁]
      exact ⟨rfl, rfl⟩
    | ok q =>
      obtain ⟨hendpoint, hmethod⟩ := hasks q rfl
      rw [← hendpoint, ← hmethod] at h₁ h₂
      let a := s.cors.mark r (r.trim (respond (.error .notResolved)))
      let told := (Course.unresolved .notResolved).lines (q.withCredential credential)
      have hrefused : ∀ t : Serving, Unmatched q.endpoint q.method credential
          t.running.holdings.definitions → s.handle moment r t = (a, t.refusing (some told)) := by
        intro t ht
        exact (hself t).trans (by rw [Fate.meet_unmatched hmem hkey hne ht])
      refine ⟨⟨a, some told, hrefused s₁ h₁, hrefused s₂ h₂⟩, fun headers hnone t => ?_⟩
      rw [hhandle, hrefused s₁ h₁, Fate.meet_without_credential hnone]
      exact ⟨rfl, rfl⟩

theorem unmatched_alike_wrong_credential :
    let s : Service := ⟨⟨.inMemory, .empty⟩, none, .anyOrigin⟩
    let d : Definition := ⟨1, "items", "POST", "k1", "SELECT 1", "2024-01-01T00:00:00.000Z"⟩
    let t ds : Serving := ⟨{ holdings := ⟨⟨"", .fleeting, none⟩, ds⟩, journal := .attentive }, {}⟩
    let q : GatewayRequest := .invoke ⟨"items", "post", some "k2", .single []⟩
    let r : Request := ⟨"POST", "/api/dynamic/items", [("X-Api-Key", "k2".toUTF8)], .empty⟩
    let moment : Moment := ⟨"", 0, ""⟩
    (∃ told, s.gateway.serve q (t [d]).running = (.error .notResolved, (t [d]).running.rejecting told) ∧
      s.gateway.serve q (t []).running = (.error .notResolved, (t []).running.rejecting told)) ∧
    (∃ a told, s.handle moment r (t [d]) = (a, (t [d]).refusing told) ∧
      s.handle moment r (t []) = (a, (t []).refusing told)) := by
  intro s d t q r moment
  have hd : ∀ method, Unmatched "items" method "k2" [d] := by
    intro method e he hanswers
    obtain rfl := List.mem_singleton.mp he
    exact absurd hanswers.2.2 (by decide)
  have hnil : ∀ method, Unmatched "items" method "k2" [] := by
    intro method e he
    cases he
  have hgateway := (@unmatched_alike s rfl "items" "post" "k2" (by decide)).1
  have hhttp := (@unmatched_alike s rfl "items" "POST" "k2" (by decide)).2
  refine ⟨(hgateway q rfl rfl rfl (t [d]).running (t []).running (hd _) (hnil _)).1, ?_⟩
  exact (hhttp moment r (.dynamic "items".toList) "items".toList (by decide +kernel) (.inl rfl)
    (by decide +kernel) rfl (by decide +kernel) (t [d]) (t []) (hd _) (hnil _)).1

end Service

end Http

end EndpointGate
