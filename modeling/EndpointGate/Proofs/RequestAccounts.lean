import EndpointGate.Proofs.BatchAtomicity
import EndpointGate.Proofs.CallSequence
import EndpointGate.Proofs.RequestCourse
import Mathlib.Data.UInt

/-! The accounts of a gateway. Each request goes from its receipt to one end, and over calls of any number
and kind the counters add up: what was received has been committed, served, aborted or rejected. -/

namespace EndpointGate

/-- The path of a request that goes by moves allowed from its receipt to its one end. The end tells whether
the request succeeded and, if it failed, whether it had come to be executed. -/
structure EndsOnce (path : List RequestState) (result : Except GatewayError Served) : Prop where
  start : path.head? = some .received
  moves : path.IsChain fun a b => a.allows b = true
  ends : ∃ last, path.getLast? = some last ∧ path.filter RequestState.isTerminal = [last]
  committed : path.getLast? = some .committed ↔ ∃ v, result = .ok v
  aborted : path.getLast? = some .aborted ↔ (∃ e, result = .error e) ∧ .executing ∈ path
  rejected : path.getLast? = some .rejected ↔ (∃ e, result = .error e) ∧ .executing ∉ path

theorem Course.endsOnce (c : Course) : EndsOnce c.path c.result := by
  cases c <;> constructor <;> simp [path, result, RequestState.allows, RequestState.isTerminal]

inductive GatewayCall
  | request (q : GatewayRequest)
  | register (now : String) (r : Registration)
  | endpoints

inductive GatewayAnswer
  | served (result : Except GatewayError Served)
  | registered (id : Except GatewayError Int)
  | listed (ds : Except GatewayError (List Definition))

def GatewayCall.applied : GatewayCall → GatewayAnswer → Nat
  | .request (.invoke i), .served (.ok _) => i.body.rows.length
  | _, _ => 0

def GatewayAnswer.isRegistered : GatewayAnswer → Bool
  | .registered (.ok _) => true
  | _ => false

/-- Counters between two moments in which so many rows were applied and endpoints registered. -/
structure Metrics.Accounts (m m' : Metrics) (rows endpoints : Nat) : Prop where
  ended : m'.requestsReceived - m.requestsReceived =
    (m'.requestsCommitted - m.requestsCommitted) + (m'.readsServed - m.readsServed) +
      (m'.requestsAborted - m.requestsAborted) + (m'.requestsRejected - m.requestsRejected)
  applied : m'.rowsApplied - m.rowsApplied = UInt64.ofNat rows
  registered : m'.endpointsRegistered - m.endpointsRegistered = UInt64.ofNat endpoints

namespace Metrics.Accounts

variable {m m' m₁ m₂ : Metrics} {rows more endpoints others : Nat}

theorem refl (m : Metrics) : Accounts m m 0 0 := by
  constructor <;> simp

theorem trans (h : Accounts m m₁ rows endpoints) (h' : Accounts m₁ m₂ more others) :
    Accounts m m₂ (rows + more) (endpoints + others) := by
  obtain ⟨h₁, h₂, h₃⟩ := h
  obtain ⟨h₁', h₂', h₃'⟩ := h'
  constructor
  · grind
  · rw [UInt64.ofNat_add, ← h₂, ← h₂']
    grind
  · rw [UInt64.ofNat_add, ← h₃, ← h₃']
    grind

theorem registered_toNat (h : Accounts m m' rows endpoints) (hfit : endpoints < 2 ^ 64) :
    (m'.endpointsRegistered - m.endpointsRegistered).toNat = endpoints := by
  rw [h.registered]
  exact UInt64.toNat_ofNat_of_lt' hfit

end Metrics.Accounts

def Served.applied : Served → Nat
  | .outcome o => o.rowsApplied
  | .rows _ => 0

namespace Course

def applied : Course → Nat
  | .done v _ _ => v.applied
  | _ => 0

theorem accounts (c : Course) (m : Metrics) : m.Accounts (c.counted m) c.applied 0 := by
  cases c with
  | done v =>
    cases v <;> constructor <;>
      simp [counted, applied, Served.applied, Metrics.received, Metrics.committed, Metrics.served,
        Metrics.applied]
  | unresolved | unfit | failed =>
    constructor <;> simp [counted, applied, Metrics.received, Metrics.rejected, Metrics.aborted]

end Course

theorem Engine.rowsApplied_execute {t : Template} {b : Batch} {s : Store} {j : Journal}
    {o : BatchOutcome} (h : (execute t b s j).1 = .ok o) : o.rowsApplied = b.size := by
  rcases execute_cases t b s j with ⟨e, -, he⟩ | ⟨c, pre, r, rest, counts, c₁, x, c₂, -, -, -, -, he⟩ |
    ⟨c, counts, c₁, -, -, -, he⟩ | ⟨c, counts, c₁, -, -, -, he⟩
  · simp [he] at h
  · simp [he] at h
  · simp [he] at h
  · rw [he] at h
    rw [← Except.ok.inj h]

namespace Gateway

variable {g : Gateway}

theorem applied_course (q : GatewayRequest) (h : Holdings) :
    (g.course q h).applied = (GatewayCall.request q).applied (.served (g.course q h).result) := by
  cases hc : g.course q h with
  | unresolved | unfit | failed => cases q <;> rfl
  | done v store aside =>
    obtain ⟨w, t, hw, hv⟩ := course_done hc
    cases q with
    | invoke i =>
      obtain ⟨b, hb, rfl⟩ := Sql.map_eq_ok hw
      obtain ⟨o, ho, rfl⟩ := Sql.map_eq_ok hv
      have hrows := rows_of_batchOf hb
      have happlied := Engine.rowsApplied_execute ho
      rw [Batch.size, hrows] at happlied
      exact happlied
    | read r =>
      obtain rfl := Except.ok.inj hw
      obtain ⟨rows, -, rfl⟩ := Sql.map_eq_ok hv
      rfl

def answer (g : Gateway) (s : Running) : GatewayCall → GatewayAnswer × Running
  | .request q => (.served (g.serve q s).1, (g.serve q s).2)
  | .register now r => (.registered (g.register now r s).1, (g.register now r s).2)
  | .endpoints => (.listed (g.endpoints s), s)

def answers (g : Gateway) (s : Running) (calls : List GatewayCall) : List GatewayAnswer × Running :=
  serially g.answer s calls

def told (g : Gateway) (q : GatewayRequest) (h : Holdings) : List Entry :=
  (g.serve q { holdings := h, journal := .attentive }).2.journal.entries.reverse

def path (g : Gateway) (q : GatewayRequest) (h : Holdings) : List RequestState :=
  (g.told q h).filterMap Entry.state?

theorem told_eq (q : GatewayRequest) (h : Holdings) : g.told q h = (g.course q h).lines q := by
  rw [told, serve_eq, Journal.told_attentive]

theorem path_eq (q : GatewayRequest) (h : Holdings) : g.path q h = (g.course q h).path := by
  rw [path, told_eq, states_lines]

theorem course_of_unresolved {q : GatewayRequest} {h : Holdings} {credential : String} {e : RegistryError}
    (hc : q.credential = some credential) (hne : credential ≠ "")
    (he : g.registry.resolve (.of q.endpoint q.method) credential h = .error e) :
    g.course q h = .unresolved (.ofResolution e) := by
  simp [course, resolve, hc, hne, he]

theorem register_accounts (s : Running) (now : String) (r : Registration) :
    s.metrics.Accounts (g.register now r s).2.metrics 0
      (GatewayAnswer.registered (g.register now r s).1).isRegistered.toNat := by
  rcases hreg : g.registry.register now r s.holdings with ⟨e | id, holdings⟩
  · have hmetrics : (g.register now r s).2.metrics = s.metrics := by
      by_cases he : e.isClientError <;> simp [register, hreg, he]
    have hanswer : (GatewayAnswer.registered (g.register now r s).1).isRegistered = false := by
      by_cases he : e.isClientError <;> simp [register, hreg, he, GatewayAnswer.isRegistered]
    rw [hmetrics, hanswer]
    exact .refl s.metrics
  · constructor <;> simp [register, hreg, Metrics.registered, GatewayAnswer.isRegistered]

theorem answer_accounts (s : Running) (c : GatewayCall) :
    s.metrics.Accounts (g.answer s c).2.metrics (c.applied (g.answer s c).1)
      (g.answer s c).1.isRegistered.toNat := by
  cases c with
  | request q =>
    have hcourse := (g.course q s.holdings).accounts s.metrics
    rw [applied_course] at hcourse
    rw [answer, serve_eq]
    exact hcourse
  | register now r => exact register_accounts s now r
  | endpoints => exact .refl s.metrics

theorem answers_accounts (s : Running) (calls : List GatewayCall) :
    s.metrics.Accounts (g.answers s calls).2.metrics
      (calls.zipWith GatewayCall.applied (g.answers s calls).1).sum
      ((g.answers s calls).1.countP GatewayAnswer.isRegistered) := by
  induction calls generalizing s with
  | nil => exact .refl s.metrics
  | cons c rest ih =>
    have hrun := (answer_accounts s c).trans (ih (g.answer s c).2)
    have hcount : ((g.answers s (c :: rest)).1.countP GatewayAnswer.isRegistered) =
        (g.answer s c).1.isRegistered.toNat +
          (g.answers (g.answer s c).2 rest).1.countP GatewayAnswer.isRegistered := by
      cases h : (g.answer s c).1.isRegistered <;> simp [answers, serially, h, Nat.add_comm]
    rw [hcount]
    exact hrun

/-- Whatever is asked of a gateway, each request goes from its receipt to one end, which tells how it
went, and this is what is written of it. What was received has been committed, served, aborted or
rejected; the rows applied are those of the invocations that succeeded. -/
theorem requests_accounted (g : Gateway) (calls : List GatewayCall) (s : Running) :
    (∀ before q after, calls = before ++ .request q :: after →
      let t := (g.answers s before).2
      (g.answers s calls).1[before.length]? = some (.served (g.serve q t).1) ∧
      EndsOnce (g.path q t.holdings) (g.serve q t).1 ∧
      (g.serve q t).2.journal = t.journal.tell (g.told q t.holdings) ∧
      ∀ credential x, q.credential = some credential → credential ≠ "" →
        g.registry.resolve (.of q.endpoint q.method) credential t.holdings = .error (.store x) →
        (g.serve q t).1 = .error (.executionFailed (.store x)) ∧
          (g.path q t.holdings).getLast? = some .rejected) ∧
    let registered := (g.answers s calls).1.countP GatewayAnswer.isRegistered
    s.metrics.Accounts (g.answers s calls).2.metrics
      (calls.zipWith GatewayCall.applied (g.answers s calls).1).sum registered ∧
    (registered < 2 ^ 64 → ((g.answers s calls).2.metrics.endpointsRegistered -
      s.metrics.endpointsRegistered).toNat = registered) := by
  refine ⟨?_, answers_accounts s calls, (answers_accounts s calls).registered_toNat⟩
  rintro before q after rfl t
  refine ⟨getElem?_serially g.answer s before (.request q) after, ?_, ?_, ?_⟩
  · rw [path_eq, serve_eq]
    exact Course.endsOnce _
  · rw [told_eq, serve_eq]
  · intro credential x hc hne he
    rw [path_eq, serve_eq, course_of_unresolved hc hne he]
    exact ⟨rfl, rfl⟩

theorem requests_accounted_unopenable :
    let g : Gateway := ⟨.inStore, .empty⟩
    let store : Store := ⟨"gate.db", .unopenable "unable to open database file", none⟩
    let s : Running := { holdings := ⟨store, []⟩, journal := .attentive }
    let q : GatewayRequest := .read ⟨"items", some "k1", []⟩
    let e : StoreError := .cannotOpen "gate.db" "unable to open database file"
    (g.serve q s).1 = .error (.executionFailed (.store e)) ∧
      (g.path q s.holdings).getLast? = some .rejected ∧
      s.metrics.Accounts (g.answers s [.request q]).2.metrics 0 0 := by
  intro g store s q e
  obtain ⟨hrequest, haccounts, -⟩ := requests_accounted g [.request q] s
  obtain ⟨-, -, -, hfailed⟩ := hrequest [] q [] rfl
  obtain ⟨hresult, hlast⟩ := hfailed "k1" e rfl (by decide) rfl
  exact ⟨hresult, hlast, haccounts⟩

end Gateway

end EndpointGate
