import EndpointGate.Proofs.InvocationPipeline

/-! How far a request gets. It is refused when its endpoint is looked up, or for its rows, or it is handed
to the engine, which fails or succeeds. This alone decides what is answered and kept, what is counted and
what is logged; what has been counted and logged before has no part in it. -/

namespace EndpointGate

namespace Journal

def attentive : Journal := { threshold := .trace }

def keeps (j : Journal) : Entry → Bool
  | .line severity _ _ => j.enabled severity
  | .printed _ => true

def tell (j : Journal) (told : List Entry) : Journal :=
  { j with entries := (told.filter j.keeps).reverse ++ j.entries }

theorem tell_tell (j : Journal) (told more : List Entry) :
    (j.tell told).tell more = j.tell (told ++ more) := by
  have hkeeps : (j.tell told).keeps = j.keeps := by
    funext e
    cases e <;> rfl
  simp only [tell] at hkeeps ⊢
  simp [hkeeps]

theorem log_eq_tell (j : Journal) (severity : Severity) (event : String) (details : Log.Details) :
    j.log severity event details = j.tell [.line severity event details] := by
  by_cases h : j.enabled severity <;> simp [log, tell, keeps, h]

theorem told_attentive (told : List Entry) : (attentive.tell told).entries.reverse = told := by
  have hall : told.filter attentive.keeps = told := by
    apply List.filter_eq_self.mpr
    intro e _
    cases e with
    | line severity event details => cases severity <;> rfl
    | printed text => rfl
  simp only [tell, hall]
  simp [attentive]

end Journal

def RequestState.all : List RequestState :=
  [.received, .resolved, .validated, .executing, .committed, .aborted, .rejected]

def Entry.state? : Entry → Option RequestState
  | .line _ event _ => RequestState.all.find? fun s => s.event.name = event
  | .printed _ => none

inductive GatewayRequest
  | invoke (i : Invocation)
  | read (r : ReadRequest)

namespace GatewayRequest

def endpoint : GatewayRequest → String
  | .invoke i => i.endpoint
  | .read r => r.endpoint

def method : GatewayRequest → String
  | .invoke i => i.method
  | .read _ => "GET"

def credential : GatewayRequest → Option String
  | .invoke i => i.credential
  | .read r => r.credential

def line (q : GatewayRequest) (state : RequestState) (extra : Log.Details) : Entry :=
  .line state.event.severity state.event.name
    ([("endpoint", q.endpoint), ("method", q.method), ("state", state.name)] ++ extra)

def lines (q : GatewayRequest) (states : List RequestState) : List Entry :=
  states.map fun s => q.line s []

def call (q : GatewayRequest) (state : RequestState) (h : Holdings) (j : Journal) : Call :=
  ⟨⟨q.endpoint, q.method, state⟩, h, j⟩

end GatewayRequest

inductive Served
  | outcome (o : BatchOutcome)
  | rows (rows : List Row)
  deriving DecidableEq

inductive EngineWork
  | batch (b : Batch)
  | query (fields : Row)

def EngineWork.run (t : Template) (s : Store) (j : Journal) :
    EngineWork → Except ExecutionError Served × Store × Journal
  | .batch b =>
    let (result, s, j) := Engine.execute t b s j
    (result.map .outcome, s, j)
  | .query fields =>
    let (result, s) := Engine.query t fields s
    (result.map .rows, s, j)

/-- How far a request gets, and what the engine leaves and tells beside. -/
inductive Course
  | unresolved (e : GatewayError)
  | unfit (e : GatewayError)
  | failed (e : ExecutionError) (store : Store) (aside : List Entry)
  | done (v : Served) (store : Store) (aside : List Entry)

namespace Course

def path : Course → List RequestState
  | .unresolved _ => [.received, .rejected]
  | .unfit _ => [.received, .resolved, .rejected]
  | .failed .. => [.received, .resolved, .validated, .executing, .aborted]
  | .done .. => [.received, .resolved, .validated, .executing, .committed]

def result : Course → Except GatewayError Served
  | .unresolved e | .unfit e => .error e
  | .failed e _ _ => .error (.executionFailed e)
  | .done v _ _ => .ok v

def holdings (h : Holdings) : Course → Holdings
  | .unresolved _ | .unfit _ => h
  | .failed _ store _ | .done _ store _ => { h with store }

def counted (m : Metrics) : Course → Metrics
  | .unresolved _ | .unfit _ => m.received.rejected
  | .failed .. => m.received.aborted
  | .done (.outcome o) _ _ => m.received.committed.applied o.rowsApplied
  | .done (.rows _) _ _ => m.received.served

def reason (e : GatewayError) : Log.Details := [("kind", e.kind), ("reason", e.message)]

def aside : Course → List Entry
  | .unresolved _ | .unfit _ => []
  | .failed _ _ aside | .done _ _ aside => aside

def stage : Course → RequestState
  | .unresolved _ => .received
  | .unfit _ => .resolved
  | .failed .. => .executing
  | .done .. => .committed

def way (q : GatewayRequest) : Course → List Entry
  | .unresolved _ => []
  | .unfit _ => q.lines [.resolved]
  | .failed _ _ aside => q.lines [.resolved, .validated, .executing] ++ aside
  | .done _ _ aside => q.lines [.resolved, .validated, .executing] ++ aside ++ q.lines [.committed]

def ending (q : GatewayRequest) : Course → List Entry
  | .unresolved e | .unfit e => [q.line .rejected (reason e)]
  | .failed e _ _ => [q.line .aborted (reason (.executionFailed e))]
  | .done (.outcome _) _ _ => []
  | .done (.rows rows) _ _ => [.line Event.readServed.severity Event.readServed.name
      [("endpoint", q.endpoint), ("rows", toString rows.length)]]

def lines (q : GatewayRequest) (c : Course) : List Entry :=
  q.lines [.received] ++ c.way q ++ c.ending q

end Course

namespace Engine

theorem execute_tells (t : Template) (b : Batch) (s : Store) :
    ∃ aside, aside.filterMap Entry.state? = [] ∧ ∀ j, (execute t b s j).2.2 = j.tell aside := by
  have habandon : ∀ c, ∃ aside, aside.filterMap Entry.state? = [] ∧
      ∀ j, (abandon c j).2 = j.tell aside := by
    intro c
    cases hc : c.rollback with
    | ok c' => exact ⟨[], rfl, fun j => by simp only [abandon, hc]; rfl⟩
    | error f =>
      refine ⟨[.line .error "BATCH_ROLLBACK_FAILED" [("error", f.message)]], rfl, fun j => ?_⟩
      simp only [abandon, hc]
      exact j.log_eq_tell ..
  unfold execute
  cases s.connect with
  | error e => exact ⟨[], rfl, fun j => rfl⟩
  | ok c =>
    rcases hrun : c.run (.begin true) [] with ⟨f | out, c₁⟩
    · exact ⟨[], rfl, fun j => by simp only [hrun]; rfl⟩
    · rcases hrows : applyRows t.plan 0 c₁ b.rows with ⟨⟨row, e⟩ | changed, c₂⟩
      · obtain ⟨aside, hstate, htell⟩ := habandon c₂
        exact ⟨aside, hstate, fun j => by simp only [hrun, hrows]; exact htell j⟩
      · refine ⟨[], rfl, fun j => ?_⟩
        cases hcommit : c₂.commit <;> simp only [hrun, hrows, hcommit] <;> rfl

end Engine

theorem EngineWork.run_attentive (w : EngineWork) (t : Template) (s : Store) :
    ((w.run t s .attentive).2.2.entries.reverse.filterMap Entry.state? = []) ∧
      ∀ j, w.run t s j = ((w.run t s .attentive).1, (w.run t s .attentive).2.1,
        j.tell (w.run t s .attentive).2.2.entries.reverse) := by
  cases w with
  | batch b =>
    obtain ⟨aside, hstate, htell⟩ := Engine.execute_tells t b s
    have haside : (Engine.execute t b s .attentive).2.2.entries.reverse = aside := by
      rw [htell, Journal.told_attentive]
    refine ⟨?_, fun j => ?_⟩
    · simp only [run, haside, hstate]
    · obtain ⟨hr, hs⟩ := Gateway.execute_journal t b s j .attentive
      simp only [run, haside, hr, hs, htell j]
  | query fields => exact ⟨rfl, fun j => rfl⟩

namespace Gateway

def workOf (g : Gateway) : GatewayRequest → Except GatewayError EngineWork
  | .invoke i => (g.batchOf i.endpoint i.body).map .batch
  | .read r => .ok (.query r.fields)

def serve (g : Gateway) (q : GatewayRequest) (s : Running) : Except GatewayError Served × Running :=
  match q with
  | .invoke i => ((g.invoke i s).1.map .outcome, (g.invoke i s).2)
  | .read r => ((g.read r s).1.map .rows, (g.read r s).2)

def course (g : Gateway) (q : GatewayRequest) (h : Holdings) : Course :=
  match g.resolve q.endpoint q.method q.credential h with
  | .error e => .unresolved e
  | .ok d => match g.workOf q with
    | .error e => .unfit e
    | .ok w => match w.run ⟨d.sqlTemplate⟩ h.store .attentive with
      | (.error e, store, j) => .failed e store j.entries.reverse
      | (.ok v, store, j) => .done v store j.entries.reverse

theorem course_done {g : Gateway} {q : GatewayRequest} {h : Holdings} {v : Served} {store : Store}
    {aside : List Entry} (hc : g.course q h = .done v store aside) :
    ∃ (w : EngineWork) (t : Template), g.workOf q = .ok w ∧ (w.run t h.store .attentive).1 = .ok v := by
  unfold course at hc
  split at hc
  · cases hc
  · rename_i d _
    split at hc
    · cases hc
    · rename_i w hw
      refine ⟨w, ⟨d.sqlTemplate⟩, hw, ?_⟩
      split at hc
      · cases hc
      · rename_i hrun
        obtain ⟨rfl, -, -⟩ := Course.done.inj hc
        rw [hrun]

theorem states_aside (g : Gateway) (q : GatewayRequest) (h : Holdings) :
    (g.course q h).aside.filterMap Entry.state? = [] := by
  unfold course
  cases g.resolve q.endpoint q.method q.credential h with
  | error e => rfl
  | ok d =>
    cases g.workOf q with
    | error e => rfl
    | ok w =>
      obtain ⟨haside, -⟩ := w.run_attentive ⟨d.sqlTemplate⟩ h.store
      rcases hrun : w.run ⟨d.sqlTemplate⟩ h.store .attentive with ⟨e | v, store, j⟩ <;>
        simpa only [Course.aside, hrun] using haside

theorem states_lines (g : Gateway) (q : GatewayRequest) (h : Holdings) :
    ((g.course q h).lines q).filterMap Entry.state? = (g.course q h).path := by
  have hline : ∀ s extra, (q.line s extra).state? = some s := by
    intro s extra
    cases s <;> rfl
  have haside := states_aside g q h
  generalize g.course q h = c at haside ⊢
  cases c with
  | unresolved | unfit | failed =>
    simp_all [Course.lines, Course.way, Course.ending, Course.path, Course.aside,
      GatewayRequest.lines]
  | done v =>
    have hserved : ∀ details, (Entry.line Event.readServed.severity Event.readServed.name
        details).state? = none := fun _ => rfl
    cases v <;>
      simp_all [Course.lines, Course.way, Course.ending, Course.path, Course.aside,
        GatewayRequest.lines]

section Stages

variable {g : Gateway} {q : GatewayRequest} {h h' : Holdings} {j j' : Journal} {α : Type}

theorem run_advance_call {s next : RequestState} (hs : s.allows next = true) :
    (Handling.advance next).run (q.call s h j) =
      (.ok (), q.call next h (j.tell [q.line next []])) := by
  simp [Handling.advance, ExceptT.run, GatewayRequest.call, Lifecycle.advance,
    RequestState.transition, hs, Lifecycle.report, Journal.event, Journal.log_eq_tell,
    GatewayRequest.line]

theorem run_resolving (k : Definition → Handling α) :
    (do let d ← .ofExcept (g.resolve q.endpoint q.method q.credential (← get).holdings)
        Handling.advance .resolved
        k d : Handling α).run (q.call .received h j) =
      match g.resolve q.endpoint q.method q.credential h with
      | .error e => (.error e, q.call .received h j)
      | .ok d => (k d).run (q.call .resolved h (j.tell (q.lines [.resolved]))) := by
  -- the first stage only reads what is held, so a failure leaves the call as it was
  have hget : (get : Handling Call).run (q.call .received h j) =
    (.ok (q.call .received h j), q.call .received h j) := rfl
  rw [run_bind_ok hget]
  change (Handling.ofExcept (g.resolve q.endpoint q.method q.credential h) >>= _).run _ = _
  cases hr : g.resolve q.endpoint q.method q.credential h with
  | error e => exact run_bind_error (run_ofExcept _ _) _
  | ok d => rw [run_bind_ok (run_ofExcept _ _), run_bind_ok (run_advance_call rfl)]; rfl

theorem run_validating (k : Handling α) :
    (do Handling.advance .validated
        Handling.advance .executing
        k : Handling α).run (q.call .resolved h j) =
      k.run (q.call .executing h (j.tell (q.lines [.validated, .executing]))) := by
  rw [run_bind_ok (run_advance_call rfl), run_bind_ok (run_advance_call rfl), Journal.tell_tell]
  rfl

theorem run_stopping {engine : Handling α} {e : GatewayError}
    (hx : engine.run (q.call .executing h j) = (.error e, q.call .executing h' j')) :
    (do let v ← engine
        Handling.advance .committed
        return v : Handling α).run (q.call .executing h j) = (.error e, q.call .executing h' j') :=
  run_bind_error hx _

theorem run_finishing {engine : Handling α} {v : α}
    (hx : engine.run (q.call .executing h j) = (.ok v, q.call .executing h' j')) :
    (do let v ← engine
        Handling.advance .committed
        return v : Handling α).run (q.call .executing h j) =
      (.ok v, q.call .committed h' (j'.tell (q.lines [.committed]))) := by
  rw [run_bind_ok hx, run_bind_ok (run_advance_call rfl)]
  rfl

theorem recordFailure_call {s : RequestState} {e : GatewayError} {m : Metrics}
    (hs : s.isTerminal = false) :
    let last := if s = .executing then RequestState.aborted else .rejected
    recordFailure (q.call s h j) e m =
      ⟨h, if last = .aborted then m.aborted else m.rejected, j.tell [q.line last (Course.reason e)]⟩ := by
  intro last
  cases s with
  | received | resolved | validated | executing =>
    simp [recordFailure, GatewayRequest.call, Lifecycle.fail, RequestState.transition,
      RequestState.allows, Lifecycle.report, Journal.event, Journal.log_eq_tell,
      GatewayRequest.line, Course.reason, last]
  | committed | aborted | rejected => cases hs

theorem recordFailure_course {c : Course} {e : GatewayError} {m : Metrics}
    (hc : c.result = .error e) :
    recordFailure (q.call c.stage (c.holdings h) (j.tell (q.lines [.received] ++ c.way q))) e
      m.received = ⟨c.holdings h, c.counted m, j.tell (c.lines q)⟩ := by
  cases c with
  | unresolved e' | unfit e' =>
    obtain rfl := Except.error.inj hc
    rw [Course.stage, recordFailure_call rfl, Journal.tell_tell]
    rfl
  | failed e' =>
    obtain rfl := Except.error.inj hc
    rw [Course.stage, recordFailure_call rfl, Journal.tell_tell]
    rfl
  | done v => cases hc

theorem handle_eq (work : Handling α) (s : Running) :
    handle q.endpoint q.method work s =
      work.run (q.call .received s.holdings (s.journal.tell (q.lines [.received]))) := by
  simp [handle, Lifecycle.start, Lifecycle.report, Journal.event, Journal.log_eq_tell,
    GatewayRequest.call, GatewayRequest.lines, GatewayRequest.line]

end Stages

section Course

variable {g : Gateway} {h : Holdings} {j : Journal}

theorem run_working {q : GatewayRequest} {α : Type} {d : Definition} {w : EngineWork}
    {engine : Handling α} {give : α → Served} (hd : g.resolve q.endpoint q.method q.credential h = .ok d)
    (hw : g.workOf q = .ok w)
    (hengine : ∀ j, ∃ x : Except ExecutionError α, x.map give = (w.run ⟨d.sqlTemplate⟩ h.store j).1 ∧
      engine.run (q.call .executing h j) = (x.mapError .executionFailed,
        q.call .executing { h with store := (w.run ⟨d.sqlTemplate⟩ h.store j).2.1 }
          (w.run ⟨d.sqlTemplate⟩ h.store j).2.2)) :
    let c := g.course q h
    ∃ x, (do Handling.advance .validated
             Handling.advance .executing
             let v ← engine
             Handling.advance .committed
             return v : Handling α).run (q.call .resolved h (j.tell (q.lines [.resolved]))) =
        (x, q.call c.stage (c.holdings h) (j.tell (c.way q))) ∧ x.map give = c.result := by
  intro c
  -- the engine runs with the journal as it stands then; the course was found with an empty one
  obtain ⟨-, htell⟩ := w.run_attentive ⟨d.sqlTemplate⟩ h.store
  obtain ⟨x, hgive, hx⟩ :=
    hengine (j.tell (q.lines [.resolved]) |>.tell (q.lines [.validated, .executing]))
  rw [htell] at hgive hx
  rw [run_validating]
  rcases hrun : w.run ⟨d.sqlTemplate⟩ h.store .attentive with ⟨r, store, aside⟩
  rw [hrun] at hgive hx
  cases x with
  | error e =>
    obtain rfl : r = .error e := hgive.symm
    have hc : c = .failed e store aside.entries.reverse := by simp only [c, course, hd, hw, hrun]
    rw [run_stopping hx, hc]
    simp only [Journal.tell_tell]
    exact ⟨_, rfl, rfl⟩
  | ok v =>
    obtain rfl : r = .ok (give v) := hgive.symm
    have hc : c = .done (give v) store aside.entries.reverse := by
      simp only [c, course, hd, hw, hrun]
    rw [run_finishing hx, hc]
    simp only [Journal.tell_tell]
    exact ⟨_, rfl, rfl⟩

theorem run_invocation (i : Invocation) :
    let q := GatewayRequest.invoke i
    let c := g.course q h
    ∃ x, (g.runInvocation i).run (q.call .received h j) =
      (x, q.call c.stage (c.holdings h) (j.tell (c.way q))) ∧ x.map .outcome = c.result := by
  intro q c
  have hrun := run_resolving (g := g) (q := q) (h := h) (j := j) fun d => do
    let b ← .ofExcept (g.batchOf i.endpoint i.body)
    Handling.advance .validated
    Handling.advance .executing
    let outcome ← execute ⟨d.sqlTemplate⟩ b
    Handling.advance .committed
    return outcome
  change (g.runInvocation i).run _ = _ at hrun
  rw [hrun]
  cases hd : g.resolve q.endpoint q.method q.credential h with
  | error e =>
    have hc : c = .unresolved e := by simp only [c, course, hd]
    exact ⟨_, by rw [hc]; rfl, by rw [hc]; rfl⟩
  | ok d =>
    cases hb : g.batchOf i.endpoint i.body with
    | error e =>
      have hc : c = .unfit e := by simp only [c, course, hd, q, workOf, hb]; rfl
      rw [hc]
      exact ⟨.error e, run_bind_error (run_ofExcept _ _) _, rfl⟩
    | ok b =>
      have hw : g.workOf q = .ok (.batch b) := by simp only [q, workOf, hb]; rfl
      simp only
      rw [run_bind_ok (run_ofExcept _ _)]
      exact run_working hd hw fun j =>
        ⟨(Engine.execute ⟨d.sqlTemplate⟩ b h.store j).1, rfl, rfl⟩

theorem run_reading (r : ReadRequest) :
    let q := GatewayRequest.read r
    let c := g.course q h
    ∃ x, (g.runRead r).run (q.call .received h j) =
      (x, q.call c.stage (c.holdings h) (j.tell (c.way q))) ∧ x.map .rows = c.result := by
  intro q c
  have hrun := run_resolving (g := g) (q := q) (h := h) (j := j) fun d => do
    Handling.advance .validated
    Handling.advance .executing
    let rows ← query ⟨d.sqlTemplate⟩ r.fields
    Handling.advance .committed
    return rows
  change (g.runRead r).run _ = _ at hrun
  rw [hrun]
  cases hd : g.resolve q.endpoint q.method q.credential h with
  | error e =>
    have hc : c = .unresolved e := by simp only [c, course, hd]
    exact ⟨_, by rw [hc]; rfl, by rw [hc]; rfl⟩
  | ok d =>
    have hw : g.workOf q = .ok (.query r.fields) := rfl
    refine run_working hd hw fun j => ⟨(Engine.query ⟨d.sqlTemplate⟩ r.fields h.store).1, ?_, ?_⟩
    · rfl
    · simp only [query, EngineWork.run, ExceptT.run, GatewayRequest.call]

end Course

theorem serve_eq (g : Gateway) (q : GatewayRequest) (s : Running) :
    g.serve q s = ((g.course q s.holdings).result,
      { holdings := (g.course q s.holdings).holdings s.holdings
        metrics := (g.course q s.holdings).counted s.metrics
        journal := s.journal.tell ((g.course q s.holdings).lines q) }) := by
  cases q with
  | invoke i =>
    obtain ⟨x, hrun, hx⟩ := run_invocation (g := g) (h := s.holdings)
      (j := s.journal.tell ((GatewayRequest.invoke i).lines [.received])) i
    rw [← handle_eq, Journal.tell_tell] at hrun
    change handle i.endpoint i.method (g.runInvocation i) s = _ at hrun
    simp only [serve, invoke, hrun]
    generalize g.course (.invoke i) s.holdings = c at hx ⊢
    cases x with
    | error e => simp only [recordFailure_course hx.symm, ← hx]
    | ok o =>
      cases c with
      | done v =>
        obtain rfl := Except.ok.inj hx
        simp only [Course.lines, Course.ending, List.append_nil]
        rfl
      | unresolved e' | unfit e' | failed e' => cases hx
  | read r =>
    obtain ⟨x, hrun, hx⟩ := run_reading (g := g) (h := s.holdings)
      (j := s.journal.tell ((GatewayRequest.read r).lines [.received])) r
    rw [← handle_eq, Journal.tell_tell] at hrun
    change handle r.endpoint "GET" (g.runRead r) s = _ at hrun
    simp only [serve, read, hrun]
    generalize g.course (.read r) s.holdings = c at hx ⊢
    cases x with
    | error e => simp only [recordFailure_course hx.symm, ← hx]
    | ok rows =>
      cases c with
      | done v =>
        obtain rfl := Except.ok.inj hx
        simp only [GatewayRequest.call, Journal.event, Journal.log_eq_tell, Journal.tell_tell]
        rfl
      | unresolved e' | unfit e' | failed e' => cases hx

end Gateway

end EndpointGate
