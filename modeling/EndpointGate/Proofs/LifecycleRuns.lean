import EndpointGate.Proofs.CallSequence
import EndpointGate.Proofs.RequestCourse
import Mathlib.Data.List.Chain
import Mathlib.Data.List.Forall2

/-! The life of a request under any caller. Whatever is asked of it, and in whatever order, it goes from its
receipt along the moves of one diagram, tells each state when it enters it and no other time, and stays in the
state that ends it. -/

namespace EndpointGate

namespace RequestState

/-- The diagram of a request: forward step by step to the engine, which ends it in one of two ways, and before
that to its rejection. -/
inductive Leads : RequestState → RequestState → Prop
  | resolve : Leads .received .resolved
  | validate : Leads .resolved .validated
  | execute : Leads .validated .executing
  | commit : Leads .executing .committed
  | abort : Leads .executing .aborted
  | reject {s : RequestState} : s ∈ [.received, .resolved, .validated] → Leads s .rejected

/-- How many moves lead to a state at most. -/
def stage : RequestState → Nat
  | .received => 0
  | .resolved => 1
  | .validated => 2
  | .executing => 3
  | .committed | .aborted | .rejected => 4

variable {s t : RequestState}

theorem allows_iff : s.allows t = true ↔ s.Leads t := by
  constructor
  · intro h
    fun_cases allows s t with
    | case1 => exact .resolve
    | case2 => exact .validate
    | case3 => exact .execute
    | case4 => exact .commit
    | case5 => exact .abort
    | case6 | case7 | case8 => exact .reject (by decide)
    | case9 => simp [allows] at h
  · intro h
    cases h with
    | reject hs =>
      simp only [List.mem_cons, List.not_mem_nil, or_false] at hs
      obtain rfl | rfl | rfl := hs <;> rfl
    | _ => rfl

theorem Leads.forward (h : s.Leads t) : s.stage < t.stage ∧ s.isTerminal = false := by
  cases h with
  | reject hs =>
    simp only [List.mem_cons, List.not_mem_nil, or_false] at hs
    obtain rfl | rfl | rfl := hs <;> decide
  | _ => decide

theorem stage_le (s : RequestState) : s.stage ≤ 4 := by cases s <;> decide

theorem not_leads_of_terminal (h : s.isTerminal = true) : ¬s.Leads t :=
  fun hleads => Bool.false_ne_true (hleads.forward.2.symm.trans h)

theorem not_leads_rejected_of_executing : ¬Leads .executing .rejected := by
  simp [← allows_iff, allows]

section Way

variable {path : List RequestState}

theorem length_of_isChain (h : (s :: path).IsChain Leads) : path.length + s.stage ≤ 4 := by
  induction path generalizing s with
  | nil => simpa using s.stage_le
  | cons t path ih =>
    obtain ⟨hst, htail⟩ := List.isChain_cons_cons.mp h
    have hlater := ih htail
    have hlt := hst.forward.1
    rw [List.length_cons]
    omega

theorem not_terminal_of_isChain (h : (s :: path).IsChain Leads) :
    ∀ x ∈ (s :: path).dropLast, x.isTerminal = false := by
  induction path generalizing s with
  | nil => simp
  | cons t path ih =>
    obtain ⟨hst, htail⟩ := List.isChain_cons_cons.mp h
    rw [List.dropLast_cons_cons]
    exact List.forall_mem_cons.mpr ⟨hst.forward.2, ih htail⟩

/-- The states of a request from its receipt on, as the diagram leads from one to the next. -/
structure Way (path : List RequestState) (last : RequestState) : Prop where
  start : path.head? = some .received
  moves : path.IsChain Leads
  ends : path.getLast? = some last

theorem Way.received : Way [.received] .received := ⟨rfl, List.isChain_singleton _, rfl⟩

theorem Way.move (h : Way path s) (hst : s.Leads t) : Way (path ++ [t]) t where
  start := by rw [List.head?_append, h.start, Option.some_or]
  moves := by
    refine List.isChain_append.mpr ⟨h.moves, List.isChain_singleton _, fun x hx y hy => ?_⟩
    obtain rfl := Option.some.inj (h.ends.symm.trans hx)
    obtain rfl := Option.some.inj hy
    exact hst
  ends := List.getLast?_concat

theorem Way.eq_cons (h : Way path s) : ∃ rest, path = .received :: rest :=
  List.head?_eq_some_iff.mp h.start

end Way

end RequestState

inductive LifecycleCall
  | advance (next : RequestState)
  | fail (e : GatewayError)

inductive LifecycleAnswer
  | advanced (result : Except GatewayError Unit)
  | failed (state : RequestState)
  deriving DecidableEq

namespace LifecycleCall

def goal (s : RequestState) : LifecycleCall → RequestState
  | .advance next => next
  | .fail _ => if s = .executing then .aborted else .rejected

def extra : LifecycleCall → Log.Details
  | .advance _ => []
  | .fail e => Course.reason e

end LifecycleCall

namespace Lifecycle

def line (l : Lifecycle) (extra : Log.Details) : Entry :=
  .line l.state.event.severity l.state.event.name
    ([("endpoint", l.endpoint), ("method", l.method), ("state", l.state.name)] ++ extra)

def answer (p : Lifecycle × Journal) : LifecycleCall → LifecycleAnswer × (Lifecycle × Journal)
  | .advance next => match p.1.advance next p.2 with
    | .ok p => (.advanced (.ok ()), p)
    | .error e => (.advanced (.error e), p)
  | .fail e => (.failed (p.1.fail e p.2).1.state, p.1.fail e p.2)

def run (endpoint method : String) (j : Journal) (calls : List LifecycleCall) :
    List LifecycleAnswer × (Lifecycle × Journal) :=
  serially answer (start endpoint method j) calls

def Tells (endpoint method : String) (s : RequestState) (e : Entry) : Prop :=
  e.state? = some s ∧ ∃ extra, e = line ⟨endpoint, method, s⟩ extra

theorem tells_line (endpoint method : String) (s : RequestState) (extra : Log.Details) :
    Tells endpoint method s (line ⟨endpoint, method, s⟩ extra) :=
  ⟨by cases s <;> rfl, extra, rfl⟩

theorem report_eq_tell (l : Lifecycle) (extra : Log.Details) (j : Journal) :
    l.report extra j = j.tell [l.line extra] := Journal.log_eq_tell ..

section Step

variable {l : Lifecycle} {c : LifecycleCall} {j : Journal}

theorem answer_of_leads (h : l.state.Leads (c.goal l.state)) (j : Journal) :
    (answer (l, j) c).2 = ({ l with state := c.goal l.state },
      j.tell [line { l with state := c.goal l.state } c.extra]) := by
  rw [← RequestState.allows_iff] at h
  cases c with
  | advance next =>
    change l.state.allows next = true at h
    simp only [answer, advance, RequestState.transition, h, if_true, report_eq_tell]
    rfl
  | fail e =>
    rw [LifecycleCall.goal] at h
    simp only [answer, fail, RequestState.transition, h, if_true, report_eq_tell]
    rfl

theorem answer_of_not_leads (h : ¬l.state.Leads (c.goal l.state)) (j : Journal) :
    (answer (l, j) c).2 = (l, j) := by
  rw [← RequestState.allows_iff, Bool.not_eq_true] at h
  cases c with
  | advance next =>
    change l.state.allows next = false at h
    simp [answer, advance, RequestState.transition, h]
  | fail e =>
    rw [LifecycleCall.goal] at h
    simp [answer, fail, RequestState.transition, h]

theorem answer_advance (l : Lifecycle) (j : Journal) (next : RequestState) :
    (answer (l, j) (.advance next)).1 = .advanced (if l.state.allows next then .ok ()
      else .error (.internal (ForbiddenTransition.message ⟨l.state, next⟩))) := by
  cases h : l.state.allows next <;>
    simp [answer, advance, RequestState.transition, h, GatewayError.ofForbidden]

theorem leads_goal_fail (s : RequestState) (e : GatewayError) :
    s.Leads ((LifecycleCall.fail e).goal s) ↔ s.isTerminal = false := by
  refine ⟨fun h => h.forward.2, fun h => ?_⟩
  cases s with
  | received | resolved | validated => exact .reject (by simp)
  | executing => exact .abort
  | committed | aborted | rejected => cases h

end Step

structure Conduct (l : Lifecycle) (j : Journal) (c : LifecycleCall) (a : LifecycleAnswer)
    (l' : Lifecycle) (j' : Journal) : Prop where
  told : (l' = l ∧ j' = j) ∨
    (l.state.Leads l'.state ∧ l' = { l with state := l'.state } ∧ j' = j.tell [l'.line c.extra])
  advanced : ∀ next, c = .advance next → l.state.Leads next → a = .advanced (.ok ()) ∧ l'.state = next
  refused : ∀ next, c = .advance next → ¬l.state.Leads next → l' = l ∧ j' = j ∧
    a = .advanced (.error (.internal (ForbiddenTransition.message ⟨l.state, next⟩)))
  failed : ∀ e, c = .fail e → a = .failed l'.state ∧
    (l'.state ≠ l.state ∧ l'.state = .aborted ↔ l.state = .executing) ∧
    (l'.state ≠ l.state ∧ l'.state = .rejected ↔ l.state ∈ [.received, .resolved, .validated])
  ended : l.state.isTerminal = true → l' = l ∧ j' = j

theorem conduct (l : Lifecycle) (j : Journal) (c : LifecycleCall) :
    Conduct l j c (answer (l, j) c).1 (answer (l, j) c).2.1 (answer (l, j) c).2.2 := by
  have hstay (h : ¬l.state.Leads (c.goal l.state)) :
      (answer (l, j) c).2.1 = l ∧ (answer (l, j) c).2.2 = j := by
    rw [answer_of_not_leads h]
    exact ⟨rfl, rfl⟩
  refine ⟨?told, ?advanced, ?refused, ?failed, fun h => hstay (RequestState.not_leads_of_terminal h)⟩
  case told =>
    by_cases h : l.state.Leads (c.goal l.state)
    · rw [answer_of_leads h]
      exact .inr ⟨h, rfl, rfl⟩
    · exact .inl (hstay h)
  case advanced =>
    rintro next rfl h
    rw [answer_advance, if_pos (RequestState.allows_iff.mpr h), answer_of_leads h]
    exact ⟨rfl, rfl⟩
  case refused =>
    rintro next rfl h
    obtain ⟨hl, hj⟩ := hstay h
    rw [answer_advance, if_neg (mt RequestState.allows_iff.mp h)]
    exact ⟨hl, hj, rfl⟩
  case failed =>
    rintro e rfl
    refine ⟨rfl, ?_⟩
    by_cases h : l.state.isTerminal = false
    · rw [answer_of_leads ((leads_goal_fail l.state e).mpr h), LifecycleCall.goal]
      cases hs : l.state <;> simp_all [RequestState.isTerminal]
    · rw [(hstay (mt (leads_goal_fail l.state e).mp h)).1]
      cases hs : l.state <;> simp_all [RequestState.isTerminal]

theorem run_way (endpoint method : String) (calls : List LifecycleCall) :
    ∃ path last told, RequestState.Way path last ∧ List.Forall₂ (Tells endpoint method) path told ∧
      ∀ j, (run endpoint method j calls).2 = (⟨endpoint, method, last⟩, j.tell told) := by
  induction calls using List.reverseRecOn with
  | nil =>
    refine ⟨_, _, [line ⟨endpoint, method, .received⟩ []], .received,
      .cons (tells_line ..) .nil, fun j => ?_⟩
    rw [run, serially, start, report_eq_tell]
  | append_singleton calls c ih =>
    obtain ⟨path, last, told, hway, htold, hrun⟩ := ih
    have hnext (j : Journal) : (run endpoint method j (calls ++ [c])).2 =
        (answer (⟨endpoint, method, last⟩, j.tell told) c).2 := by
      rw [← hrun, run, serially_append]
      rfl
    by_cases h : last.Leads (c.goal last)
    · refine ⟨path ++ [c.goal last], c.goal last, told ++ [line ⟨endpoint, method, c.goal last⟩ c.extra],
        hway.move h, List.rel_append htold (.cons (tells_line ..) .nil), fun j => ?_⟩
      rw [hnext, answer_of_leads (l := ⟨endpoint, method, last⟩) h, Journal.tell_tell]
    · refine ⟨path, last, told, hway, htold, fun j => ?_⟩
      rw [hnext, answer_of_not_leads (l := ⟨endpoint, method, last⟩) h]

theorem run_append (endpoint method : String) (j : Journal) (before after : List LifecycleCall) :
    (run endpoint method j (before ++ after)).2 =
      (serially answer (run endpoint method j before).2 after).2 := by
  rw [run, serially_append]
  rfl

theorem serially_of_terminal {l : Lifecycle} (h : l.state.isTerminal = true) (j : Journal)
    (calls : List LifecycleCall) : (serially answer (l, j) calls).2 = (l, j) := by
  refine serially_induction (P := fun p _ => p = (l, j)) rfl (fun p past c hp => ?_) calls
  rw [hp]
  exact answer_of_not_leads (RequestState.not_leads_of_terminal h) j

/-- Whatever is asked of a request and in whatever order: what each call does, and what the calls do together. -/
theorem every_run_safe (endpoint method : String) (calls : List LifecycleCall) :
    (∀ before c after, calls = before ++ c :: after → ∀ j,
      let p := (run endpoint method j before).2
      (run endpoint method j calls).1[before.length]? = some (answer p c).1 ∧
        Conduct p.1 p.2 c (answer p c).1 (answer p c).2.1 (answer p c).2.2) ∧
    (∀ before after, calls = before ++ after → ∀ j,
      (run endpoint method j before).2.1.state.isTerminal = true →
      (run endpoint method j calls).2 = (run endpoint method j before).2) ∧
    ∃ path last told, RequestState.Way path last ∧ List.Forall₂ (Tells endpoint method) path told ∧
      (∀ j, (run endpoint method j calls).2 = (⟨endpoint, method, last⟩, j.tell told)) ∧
      path.length ≤ 5 ∧ (∀ s ∈ path.dropLast, s.isTerminal = false) ∧
      ¬[.executing, .rejected] <:+: path := by
  refine ⟨?each, ?ended, ?together⟩
  case each =>
    rintro before c after rfl j p
    exact ⟨getElem?_serially answer _ before c after, conduct p.1 p.2 c⟩
  case ended =>
    rintro before after rfl j h
    rw [run_append]
    exact serially_of_terminal h _ after
  case together =>
    obtain ⟨path, last, told, hway, htold, hrun⟩ := run_way endpoint method calls
    obtain ⟨rest, rfl⟩ := hway.eq_cons
    refine ⟨_, last, told, hway, htold, hrun, ?_, RequestState.not_terminal_of_isChain hway.moves, fun h => ?_⟩
    · exact Nat.succ_le_succ (RequestState.length_of_isChain hway.moves)
    · have hpair := List.IsChain.infix hway.moves h
      exact RequestState.not_leads_rejected_of_executing (List.isChain_pair.mp hpair)

end Lifecycle

end EndpointGate
