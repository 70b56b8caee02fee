import EndpointGate.Proofs.CallSequence
import EndpointGate.Proofs.HeaderTexts
import EndpointGate.Proofs.RequestTasks

/-! What the key of the administrator closes. Requests for the registrations that do not bear it are refused
before anything held is looked at, and leave everything as it was; those that bear it are dealt with as if
there were no key, whatever was refused before. Only the length of a body is looked at before the key. -/

namespace EndpointGate.Http

namespace Request

def Administers (r : Request) : Prop :=
  Route.ofPath? r.path = some .endpoints ∧ r.method ∈ ["GET", "POST", "PUT"]

def IsForSessions (r : Request) : Prop :=
  Route.ofPath? r.path = some .sessions ∨ ∃ id, Route.ofPath? r.path = some (.session id)

def Bears (r : Request) (key : String) : Prop := r.header? "x-admin-key" = some key.toUTF8

def IsLong (r : Request) : Prop := r.method ≠ "GET" ∧ bodyLimit < r.body.size

variable (r : Request) (key : String)

instance : Decidable r.Administers :=
  inferInstanceAs (Decidable (Route.ofPath? r.path = some .endpoints ∧ _))

instance : Decidable (r.Bears key) :=
  inferInstanceAs (Decidable (r.header? "x-admin-key" = some key.toUTF8))

instance : Decidable r.IsLong := inferInstanceAs (Decidable (_ ∧ bodyLimit < r.body.size))

def Lacks : Prop := r.Administers ∧ ¬r.Bears key

instance : Decidable (r.Lacks key) := inferInstanceAs (Decidable (_ ∧ _))

end Request

structure Arrival where
  moment : Moment
  request : Request

namespace Service

def opened (s : Service) : Service := { s with adminKey := none }

def refusal (s : Service) (r : Request) : Response :=
  s.cors.mark r (if r.IsLong then tooLong else .text 401 "Unauthorized")

def answers (s : Service) (st : Serving) (arrivals : List Arrival) : List Response × Serving :=
  serially (fun st x => s.handle x.moment x.request st) st arrivals

variable {s : Service} {moment : Moment} {r : Request} {st : Serving} {key : String}

section Key

theorem checkAdmin_eq_ok_iff (hkey : s.adminKey = some key) :
    s.checkAdmin r = .ok () ↔ r.Bears key ∧ Visible key := by
  rw [Request.Bears, ← Request.headerText?_eq_some_iff, checkAdmin, hkey]
  cases hread : r.headerText? "x-admin-key" with
  | none => simp
  | some supplied => by_cases hsame : key = supplied <;> simp [sameSecret_iff, hsame, Ne.symm]

theorem checkAdmin_of_not_bears (hkey : s.adminKey = some key) (h : ¬r.Bears key) :
    s.checkAdmin r = .error .authRejected := by
  cases hcheck : s.checkAdmin r with
  | ok u => exact absurd ((checkAdmin_eq_ok_iff hkey).mp hcheck).1 h
  | error e => rw [checkAdmin_error hcheck]

end Key

def administer (s : Service) (moment : Moment) (r : Request) (st : Serving) : Response × Serving :=
  if r.IsLong then (tooLong, st)
  else if r.method = "GET" then (s.list r st, st)
  else s.register moment r st

theorem handle_administers (h : r.Administers) (s : Service) (moment : Moment) (st : Serving) :
    s.handle moment r st =
      (s.cors.mark r (s.administer moment r st).1, (s.administer moment r st).2) := by
  obtain ⟨hroute, hmethod⟩ := h
  simp only [List.mem_cons, List.not_mem_nil, or_false] at hmethod
  rcases hmethod with hmethod | hmethod | hmethod <;>
    simp [handle, hroute, hmethod, Route.methods, serve, Route.badParameter?, Route.parameters, takesBody,
      administer, Request.IsLong]

theorem handle_lacking (hkey : s.adminKey = some key) (h : r.Lacks key) (moment : Moment) (st : Serving) :
    s.handle moment r st = (s.refusal r, st) := by
  obtain ⟨hadministers, hbears⟩ := h
  have hcheck := checkAdmin_of_not_bears hkey hbears
  rw [handle_administers hadministers, administer, refusal]
  -- the length of the body is looked at before the key
  by_cases hlong : r.IsLong
  · simp only [hlong, if_true]
  · by_cases hget : r.method = "GET"
    · simp only [hlong, hget, if_true, if_false, list, hcheck]
      rfl
    · simp only [hlong, hget, if_false, register, hcheck]
      rfl

theorem handle_bearing (hkey : s.adminKey = some key) (hvisible : Visible key) (h : r.Administers)
    (hbears : r.Bears key) (moment : Moment) (st : Serving) :
    s.handle moment r st = s.opened.handle moment r st := by
  have hcheck := (checkAdmin_eq_ok_iff hkey).mpr ⟨hbears, hvisible⟩
  have hopen : s.opened.checkAdmin r = .ok () := rfl
  have hsame : s.administer moment r st = s.opened.administer moment r st := by
    simp only [administer, list, register, hcheck, hopen]
    rfl
  rw [handle_administers h, handle_administers h, hsame]
  rfl

theorem handle_elsewhere (h : Route.ofPath? r.path ≠ some .endpoints) (moment : Moment) (st : Serving) :
    s.handle moment r st = s.opened.handle moment r st := by
  have hserve : ∀ route, Route.ofPath? r.path = some route →
      ∀ method, s.serve moment r route method st = s.opened.serve moment r route method st := by
    intro route hroute method
    -- of all routes only that of the registrations hands the key on
    cases route with
    | endpoints => exact absurd hroute h
    | health | metrics | dynamicRow | sessions => rfl
    | dynamic name =>
      by_cases hget : method = "GET"
      · rw [hget]
        rfl
      · simp only [serve]
        rfl
    | session id =>
      by_cases hget : method = "GET"
      · rw [hget]
        rfl
      · by_cases hput : method = "PUT"
        · rw [hput]
          rfl
        · simp only [serve]
  unfold handle
  cases hroute : Route.ofPath? r.path with
  | none => rfl
  | some route =>
    simp only [hserve route hroute]
    rfl

section Sessions

/-- Whether what is answered goes by the sessions only, and what is left differs in these and in the
journal only. -/
def KeepsApart {α : Type} (act : Serving → α × Serving) : Prop :=
  ∀ sessions, ∃ (a : α) (left : Sessions) (told : Journal → Journal), ∀ running,
    act ⟨running, sessions⟩ = (a, ⟨{ running with journal := told running.journal }, left⟩)

theorem keepsApart_same (a : Response) : KeepsApart fun st => (a, st) :=
  fun sessions => ⟨a, sessions, id, fun _ => rfl⟩

theorem KeepsApart.map {α β : Type} {act : Serving → α × Serving} (h : KeepsApart act) (f : α → β) :
    KeepsApart fun st => (f (act st).1, (act st).2) := by
  intro sessions
  obtain ⟨a, left, told, hact⟩ := h sessions
  exact ⟨f a, left, told, fun running => by simp only [hact]⟩

theorem keepsApart_startSession (moment : Moment) (r : Request) : KeepsApart (startSession moment r) := by
  intro sessions
  unfold startSession
  cases document r with
  | error refusal => exact ⟨refusal, sessions, id, fun running => rfl⟩
  | ok j =>
    exact ⟨.json 201 (Json.obj [("session_id", .str moment.freshId)]).render,
      sessions.start moment.freshId j moment.millis, fun j => j.event .sessionStarted [], fun running => rfl⟩

theorem keepsApart_getSession (moment : Moment) (id : String) :
    KeepsApart fun st => (getSession moment id st, st) := by
  intro sessions
  cases hget : sessions.get? id moment.millis with
  | none =>
    exact ⟨ofSessionError .notFound, sessions, fun j => j, fun running => by simp only [getSession, hget]⟩
  | some j => exact ⟨.json 200 j.render, sessions, fun j => j, fun running => by simp only [getSession, hget]⟩

theorem keepsApart_storeSession (moment : Moment) (r : Request) (id : String) :
    KeepsApart (storeSession moment r id) := by
  intro sessions
  unfold storeSession
  cases document r with
  | error refusal => exact ⟨refusal, sessions, fun j => j, fun running => rfl⟩
  | ok j =>
    simp only
    cases sessions.store id j moment.millis with
    | error e => exact ⟨_, sessions, fun j => j, fun running => rfl⟩
    | ok left => exact ⟨_, left, fun j => j, fun running => rfl⟩

theorem keepsApart_endSession (moment : Moment) (id : String) : KeepsApart (endSession moment id) := by
  intro sessions
  unfold endSession
  simp only
  rcases sessions.finish id moment.millis with ⟨found, left⟩
  cases found with
  | none => exact ⟨_, left, fun j => j, fun running => rfl⟩
  | some j => exact ⟨_, left, fun j => j.event .sessionEnded [], fun running => rfl⟩

theorem keepsApart_serve {route : Route} (h : route = .sessions ∨ ∃ id, route = .session id) (s : Service)
    (moment : Moment) (r : Request) (method : String) : KeepsApart (s.serve moment r route method) := by
  cases hbad : route.badParameter? with
  | some name =>
    have hserve : s.serve moment r route method = fun st =>
        (.text 400 ("Invalid URL: Invalid UTF-8 in \x60" ++ name ++ "\x60"), st) := by
      funext st
      simp only [serve, hbad]
    rw [hserve]
    exact keepsApart_same _
  | none =>
    rcases h with rfl | ⟨id, rfl⟩
    · have hserve : s.serve moment r .sessions method = startSession moment r := by
        funext st
        simp [serve, hbad, takesBody]
      rw [hserve]
      exact keepsApart_startSession moment r
    · by_cases hget : method = "GET"
      · have hserve : s.serve moment r (.session id) method = fun st =>
            (getSession moment (segment id) st, st) := by
          funext st
          simp [serve, hbad, takesBody, hget]
        rw [hserve]
        exact keepsApart_getSession moment (segment id)
      · by_cases hput : method = "PUT"
        · have hserve : s.serve moment r (.session id) method = storeSession moment r (segment id) := by
            funext st
            simp [serve, hbad, takesBody, hput]
          rw [hserve]
          exact keepsApart_storeSession moment r (segment id)
        · have hserve : s.serve moment r (.session id) method = endSession moment (segment id) := by
            funext st
            simp [serve, hbad, takesBody]
          rw [hserve]
          exact keepsApart_endSession moment (segment id)

theorem keepsApart_handle (h : r.IsForSessions) (s : Service) (moment : Moment) :
    KeepsApart (s.handle moment r) := by
  obtain ⟨route, hroute, hsessions⟩ : ∃ route, Route.ofPath? r.path = some route ∧
      (route = .sessions ∨ ∃ id, route = .session id) := by
    rcases h with hroute | ⟨id, hroute⟩
    · exact ⟨_, hroute, .inl rfl⟩
    · exact ⟨_, hroute, .inr ⟨id, rfl⟩⟩
  by_cases hoptions : r.method = "OPTIONS"
  · have hhandle : s.handle moment r = fun st =>
        (s.cors.preflight r (allowHeader (Route.ofPath? r.path)), st) := by
      funext st
      simp only [handle, hoptions, if_true]
    rw [hhandle]
    exact keepsApart_same _
  · by_cases hmethod : route.methods.contains r.method
    · have hhandle : s.handle moment r = fun st =>
          (s.cors.mark r (r.trim (s.serve moment r route r.verb st).1),
            (s.serve moment r route r.verb st).2) := by
        funext st
        simp only [handle, hroute, hoptions, if_false, hmethod, if_true]
        rfl
      rw [hhandle]
      exact (keepsApart_serve hsessions s moment r r.verb).map fun a => s.cors.mark r (r.trim a)
    · have hhandle : s.handle moment r = fun st =>
          (s.cors.mark r (r.trim { status := 405, headers := allowHeader (some route) }), st) := by
        funext st
        simp only [handle, hroute, hoptions, if_false, hmethod]
        rfl
      rw [hhandle]
      exact keepsApart_same _

theorem keepsApart_answers {arrivals : List Arrival}
    (h : ∀ x ∈ arrivals, KeepsApart (s.handle x.moment x.request)) :
    KeepsApart fun st => s.answers st arrivals := by
  induction arrivals with
  | nil => exact fun sessions => ⟨[], sessions, id, fun running => rfl⟩
  | cons x rest ih =>
    -- the rest goes by what the first leaves of the sessions, which is up to the sessions only
    intro sessions
    obtain ⟨a, left, told, hfirst⟩ := h x List.mem_cons_self sessions
    obtain ⟨more, left', told', hrest⟩ := ih (fun y hy => h y (List.mem_cons_of_mem x hy)) left
    refine ⟨a :: more, left', fun j => told' (told j), fun running => ?_⟩
    have hnext := hrest { running with journal := told running.journal }
    simp only [answers] at hnext ⊢
    simp only [serially, hfirst, hnext]

end Sessions

/-- Requests for the registrations that lack the key are refused and leave everything as it is. Among
requests for the sessions they tell nothing of what is held, and nothing held changes. Those that bear a
visible key, and those for anything else, are answered, and act, as if there were no key and those that
lack it had not come. -/
theorem registrations_guarded (s : Service) (key : String) (hkey : s.adminKey = some key) :
    (∀ st before x after, x.request.Lacks key →
      (s.answers st (before ++ x :: after)).1[before.length]? = some (s.refusal x.request) ∧
        (s.answers st (before ++ [x])).2 = (s.answers st before).2) ∧
    (∀ arrivals, (∀ x ∈ arrivals, x.request.Lacks key ∨ x.request.IsForSessions) → ∀ st,
      (s.answers st arrivals).2.running.holdings = st.running.holdings ∧
        (s.answers st arrivals).2.running.metrics = st.running.metrics ∧
        ∀ st' : Serving, st'.sessions = st.sessions →
          (s.answers st' arrivals).1 = (s.answers st arrivals).1) ∧
    (Visible key → ∀ arrivals, (∀ x ∈ arrivals, x.request.Administers ∨
        Route.ofPath? x.request.path ≠ some .endpoints) → ∀ st,
      let heeded := fun x : Arrival => !decide (x.request.Lacks key)
      ((arrivals.zip (s.answers st arrivals).1).filter fun y => heeded y.1).map Prod.snd =
          (s.opened.answers st (arrivals.filter heeded)).1 ∧
        (s.answers st arrivals).2 = (s.opened.answers st (arrivals.filter heeded)).2) := by
  refine ⟨fun st before x after hlacks => ?_, fun arrivals hall st => ?_, fun hvisible arrivals hall st => ?_⟩
  · have hstep := handle_lacking hkey hlacks x.moment (s.answers st before).2
    refine ⟨(getElem?_serially _ st before x after).trans ?_, ?_⟩
    · exact congrArg (fun y => some y.1) hstep
    · have hleft : (s.handle x.moment x.request (s.answers st before).2).2 = (s.answers st before).2 := by
        rw [hstep]
      rw [answers, serially_append]
      exact hleft
  · have hapart : KeepsApart fun st => s.answers st arrivals := by
      apply keepsApart_answers
      intro x hx
      rcases hall x hx with hlacks | hsessions
      · have hhandle : s.handle x.moment x.request = fun st => (s.refusal x.request, st) :=
          funext fun st => handle_lacking hkey hlacks x.moment st
        rw [hhandle]
        exact keepsApart_same _
      · exact keepsApart_handle hsessions s x.moment
    obtain ⟨as, left, told, hrun⟩ := hapart st.sessions
    have hst : s.answers st arrivals =
      (as, ⟨{ st.running with journal := told st.running.journal }, left⟩) := hrun st.running
    refine ⟨by rw [hst], by rw [hst], fun st' hsame => ?_⟩
    have hst' : s.answers st' arrivals =
        (as, ⟨{ st'.running with journal := told st'.running.journal }, left⟩) := by
      rw [← hrun st'.running, ← hsame]
    rw [hst, hst']
  · intro heeded
    refine serially_filter (p := heeded) ?_ ?_ st
    · intro x _ hx st
      have hlacks : x.request.Lacks key := by simpa [heeded] using hx
      rw [handle_lacking hkey hlacks]
    · intro x hmem hx st
      have hbearing : ¬x.request.Lacks key := by simpa [heeded] using hx
      rcases hall x hmem with hadministers | helsewhere
      · by_cases hbears : x.request.Bears key
        · exact handle_bearing hkey hvisible hadministers hbears x.moment st
        · exact absurd ⟨hadministers, hbears⟩ hbearing
      · exact handle_elsewhere helsewhere x.moment st

theorem registrations_guarded_between :
    let s : Service := ⟨⟨.inMemory, .empty⟩, some "k 1", .anyOrigin⟩
    let held (ds : List Definition) : Serving :=
      ⟨{ holdings := ⟨⟨"gate.db", .foreign, none⟩, ds⟩, journal := { threshold := .fatal } }, {}⟩
    let st := held [⟨1, "items", "POST", "k1", "SELECT 1", "today"⟩]
    let now (r : Request) : Arrival := ⟨⟨"", 0, ""⟩, r⟩
    let bodily := now ⟨"POST", "/api/endpoints", [], "no registration".toUTF8⟩
    let session := now ⟨"POST", "/api/sessions", [("Content-Type", "application/json".toUTF8)], "1".toUTF8⟩
    let other := now ⟨"GET", "/api/endpoints",
      [("X-Admin-Key", "K 1".toUTF8), ("X-Admin-Key", "k 1".toUTF8)], .empty⟩
    let right := now ⟨"GET", "/api/endpoints", [("X-Admin-Key", "k 1".toUTF8)], .empty⟩
    (s.answers st [bodily, session, other]).1[2]? = some (s.refusal other.request) ∧
      (s.answers st [bodily, session, other]).2.running.holdings = st.running.holdings ∧
      (s.answers (held []) [bodily, session, other]).1 = (s.answers st [bodily, session, other]).1 ∧
      (s.answers st [bodily, other, right]).2 = (s.opened.answers st [right]).2 := by
  intro s held st now bodily session other right
  obtain ⟨hrefused, hclosed, hheeded⟩ := registrations_guarded s "k 1" rfl
  have hbodily : bodily.request.Lacks "k 1" := by decide +kernel
  have hother : other.request.Lacks "k 1" := by decide +kernel
  have hsession : Route.ofPath? session.request.path = some .sessions := by decide +kernel
  have hall : ∀ x ∈ [bodily, session, other], x.request.Lacks "k 1" ∨ x.request.IsForSessions := by
    intro x hx
    simp only [List.mem_cons, List.not_mem_nil, or_false] at hx
    rcases hx with rfl | rfl | rfl
    · exact .inl hbodily
    · exact .inr (.inl hsession)
    · exact .inl hother
  have hadminister : ∀ x ∈ [bodily, other, right], x.request.Administers ∨
      Route.ofPath? x.request.path ≠ some .endpoints := by
    intro x hx
    simp only [List.mem_cons, List.not_mem_nil, or_false] at hx
    rcases hx with rfl | rfl | rfl <;> exact .inl (by decide +kernel)
  have hheeds : [bodily, other, right].filter (fun x => !decide (x.request.Lacks "k 1")) = [right] := by
    have hright : ¬right.request.Lacks "k 1" := by decide +kernel
    simp [hbodily, hother, hright]
  obtain ⟨hholdings, -, hsame⟩ := hclosed _ hall st
  refine ⟨(hrefused st [bodily, session] other [] hother).1, hholdings, hsame (held []) rfl, ?_⟩
  rw [(hheeded (by decide) _ hadminister st).2, hheeds]

/-- A body that is too long is refused for that, and the key is not asked for. -/
theorem long_body_refused_first :
    let s : Service := ⟨⟨.inMemory, .empty⟩, some "k", .anyOrigin⟩
    let st : Serving := ⟨{ holdings := ⟨⟨"gate.db", .foreign, none⟩, []⟩, journal := { threshold := .fatal } }, {}⟩
    let r : Request := ⟨"POST", "/api/endpoints", [], ⟨Array.replicate (bodyLimit + 1) 32⟩⟩
    r.Lacks "k" ∧ (s.handle ⟨"", 0, ""⟩ r st).1.status ≠ 401 := by
  intro s st r
  have hlacks : r.Lacks "k" := by decide +kernel
  have hlong : r.IsLong := ⟨by decide, by simp [r, ByteArray.size]⟩
  refine ⟨hlacks, ?_⟩
  rw [handle_lacking rfl hlacks, refusal, if_pos hlong]
  decide

end Service

end EndpointGate.Http
