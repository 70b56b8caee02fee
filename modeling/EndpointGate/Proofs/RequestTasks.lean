import EndpointGate.Proofs.UnmatchedRequests

/-! What requests ask of the gateway. Path, method and length of the body decide whether a request is handed
on at all, and for what; the answer then is what the gateway makes of that task. A request that is not handed
on is answered for what it is. -/

namespace EndpointGate.Http

inductive Task
  | read (name : List Char) (id : Option (List Char))
  | invoke (name : List Char)
  | register
  | list
  deriving DecidableEq, Repr

namespace Route

def task? : Route → String → Option Task
  | .endpoints, method => some (if method = "GET" then .list else .register)
  | .dynamic name, method => some (if method = "GET" then .read name none else .invoke name)
  | .dynamicRow name id, _ => some (.read name (some id))
  | _, _ => none

def IsGateway (route : Route) : Prop := ∀ method, (route.task? method).isSome

end Route

/-- Whether a request for a route is handed on: the route takes its method, the parts of its path are texts,
and its body is not too long where it is read whole. -/
def Request.fits (r : Request) (route : Route) : Bool :=
  route.methods.contains r.method && route.badParameter?.isNone &&
    !(Service.takesBody route r.verb && bodyLimit < r.body.size)

@[simp] theorem Request.status_trim (r : Request) (a : Response) : (r.trim a).status = a.status := by
  unfold trim
  split <;> rfl

@[simp] theorem Cors.status_mark (c : Cors) (r : Request) (a : Response) :
    (c.mark r a).status = a.status := rfl

def Request.task? (r : Request) : Option Task :=
  (Route.ofPath? r.path).bind fun route => if r.fits route then route.task? r.verb else none

namespace Service

def perform (s : Service) (moment : Moment) (r : Request) (st : Serving) :
    Task → Except GatewayError Json × Serving
  | .read name id =>
    let (result, running) := s.gateway.read
      ⟨segment name, r.key, readFields (id.map segment) (queryFields r.query)⟩ st.running
    (result.map rowsJson, { st with running })
  | .invoke name => match invocationBody r.body with
    | .error e => (.error e, st)
    | .ok body =>
      let (result, running) := s.gateway.invoke ⟨segment name, r.method, r.key, body⟩ st.running
      (result.map outcomeJson, { st with running })
  | .register => match s.checkAdmin r with
    | .error e => (.error e, st)
    | .ok () => match registrationBody r.body with
      | .error e => (.error e, st)
      | .ok registration =>
        let (result, running) := s.gateway.register moment.now registration st.running
        (result.map registeredJson, { st with running })
  | .list => match s.checkAdmin r with
    | .error e => (.error e, st)
    | .ok () => ((s.gateway.endpoints st.running).map listedJson, st)

def reply (s : Service) (r : Request) (result : Except GatewayError Json) : Response :=
  s.cors.mark r (r.trim (answer id result))

variable {s : Service} {moment : Moment} {r : Request} {route : Route} {st : Serving} {t : Task}

theorem checkAdmin_error {e : GatewayError} (h : s.checkAdmin r = .error e) : e = .authRejected := by
  unfold checkAdmin at h
  split at h
  · cases h
  · split at h
    · split at h
      · cases h
      · exact (Except.error.inj h).symm
    · exact (Except.error.inj h).symm

theorem serve_of_task (ht : route.task? r.verb = some t) (hbad : route.badParameter? = none)
    (hlong : ¬(takesBody route r.verb && bodyLimit < r.body.size)) :
    s.serve moment r route r.verb st =
      (answer id (s.perform moment r st t).1, (s.perform moment r st t).2) := by
  simp only [serve, hbad, hlong]
  cases route with
  | endpoints =>
    by_cases hget : r.verb = "GET"
    · obtain rfl : Task.list = t := by simpa [Route.task?, hget] using ht
      simp only [hget, list, perform]
      cases s.checkAdmin r with
      | error e => rfl
      | ok u =>
        simp only [answer_map]
        rfl
    · obtain rfl : Task.register = t := by simpa [Route.task?, hget] using ht
      simp only [register, perform]
      cases s.checkAdmin r with
      | error e => rfl
      | ok u =>
        cases registrationBody r.body with
        | error e => rfl
        | ok registration =>
          simp only [answer_map]
          rfl
  | dynamic name =>
    by_cases hget : r.verb = "GET"
    · obtain rfl : Task.read name none = t := by simpa [Route.task?, hget] using ht
      simp only [hget, perform, answer_map]
      rfl
    · obtain rfl : Task.invoke name = t := by simpa [Route.task?, hget] using ht
      simp only [invoke, perform]
      cases invocationBody r.body with
      | error e => rfl
      | ok body =>
        simp only [answer_map]
        rfl
  | dynamicRow name id =>
    obtain rfl : Task.read name (some id) = t := by simpa [Route.task?] using ht
    simp only [perform, answer_map]
    rfl
  | health | metrics | sessions | session id => cases ht

theorem task?_eq_some_iff : r.task? = some t ↔
    ∃ route, Route.ofPath? r.path = some route ∧ r.fits route ∧ route.task? r.verb = some t := by
  simp [Request.task?, Option.bind_eq_some_iff]

theorem handle_of_task (ht : r.task? = some t) (s : Service) (moment : Moment) (st : Serving) :
    s.handle moment r st = (s.reply r (s.perform moment r st t).1, (s.perform moment r st t).2) := by
  obtain ⟨route, hroute, hfits, htask⟩ := task?_eq_some_iff.mp ht
  simp only [Request.fits, Bool.and_eq_true, Option.isNone_iff_eq_none, Bool.not_eq_true'] at hfits
  obtain ⟨⟨hmethod, hbad⟩, hshort⟩ := hfits
  have hoptions : r.method ≠ "OPTIONS" := by
    rintro hoptions
    rw [hoptions] at hmethod
    cases route <;> simp [Route.methods] at hmethod
  have hserve : s.serve moment r route (if r.method = "HEAD" then "GET" else r.method) st = _ :=
    serve_of_task htask hbad (by simp [hshort])
  simp only [handle, hroute, hoptions, if_false, hmethod, if_true, hserve]
  rfl

theorem handle_of_no_task (hroute : Route.ofPath? r.path = some route) (hgate : route.IsGateway)
    (ht : r.task? = none) : ∃ a : Response, a.status ∈ [200, 400, 405, 413] ∧
      ∀ s moment st, Service.handle s moment r st = (s.cors.mark r a, st) := by
  by_cases hoptions : r.method = "OPTIONS"
  · refine ⟨{ status := 200, headers := allowHeader (some route) ++
      [("access-control-allow-methods", "*"), ("access-control-allow-headers", "*")] }, by simp, ?_⟩
    intro s moment st
    simp only [handle, hoptions, if_true, hroute, Cors.preflight]
  · by_cases hmethod : route.methods.contains r.method
    · obtain ⟨task, htask⟩ := Option.isSome_iff_exists.mp (hgate r.verb)
      have hunfit : r.fits route = false := by
        refine Bool.eq_false_iff.mpr fun hfits => ?_
        have hsome := task?_eq_some_iff.mpr ⟨route, hroute, hfits, htask⟩
        rw [ht] at hsome
        cases hsome
      have hserve : ∃ a : Response, a.status ∈ [400, 413] ∧
          ∀ s moment st, Service.serve s moment r route r.verb st = (a, st) := by
        cases hbad : route.badParameter? with
        | some bad =>
          refine ⟨.text 400 ("Invalid URL: Invalid UTF-8 in \x60" ++ bad ++ "\x60"), by simp [Response.text], ?_⟩
          intro s moment st
          simp only [serve, hbad]
        | none =>
          have hlong : (takesBody route r.verb && bodyLimit < r.body.size) = true := by
            simpa only [Request.fits, hmethod, hbad, Option.isNone_none, Bool.true_and,
              Bool.not_eq_eq_eq_not, Bool.not_false] using hunfit
          refine ⟨tooLong, by simp [tooLong, Response.text], ?_⟩
          intro s moment st
          simp only [serve, hbad, hlong, if_true]
      obtain ⟨a, hstatus, ha⟩ := hserve
      refine ⟨r.trim a, ?_, ?_⟩
      · rw [Request.status_trim]
        simp only [List.mem_cons, List.not_mem_nil, or_false] at hstatus ⊢
        omega
      · intro s moment st
        have hverb : s.serve moment r route (if r.method = "HEAD" then "GET" else r.method) st = (a, st) :=
          ha s moment st
        simp only [handle, hroute, hoptions, if_false, hmethod, if_true, hverb]
        rfl
    · refine ⟨r.trim ⟨405, allowHeader (some route), ""⟩, ?_, ?_⟩
      · rw [Request.status_trim]
        simp
      · intro s moment st
        simp only [handle, hroute, hoptions, if_false, hmethod]
        rfl

end Service

end EndpointGate.Http
