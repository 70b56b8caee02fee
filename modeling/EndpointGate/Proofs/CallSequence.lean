import Mathlib.Data.List.Induction

/-! Calls one after another. Each is answered from what the calls before it have left. -/

namespace EndpointGate

variable {σ γ α : Type} (step : σ → γ → α × σ)

def serially (s : σ) : List γ → List α × σ
  | [] => ([], s)
  | c :: rest =>
    let (a, s) := step s c
    let (more, s) := serially s rest
    (a :: more, s)

theorem length_serially (s : σ) (calls : List γ) : (serially step s calls).1.length = calls.length := by
  induction calls generalizing s with
  | nil => rfl
  | cons c rest ih => simp [serially, ih]

theorem serially_append (s : σ) (before after : List γ) :
    serially step s (before ++ after) =
      ((serially step s before).1 ++ (serially step (serially step s before).2 after).1,
        (serially step (serially step s before).2 after).2) := by
  induction before generalizing s with
  | nil => rfl
  | cons c rest ih => simp [serially, ih]

theorem getElem?_serially (s : σ) (before : List γ) (c : γ) (after : List γ) :
    (serially step s (before ++ c :: after)).1[before.length]? =
      some (step (serially step s before).2 c).1 := by
  have hlen := length_serially step s before
  rw [serially_append]
  simp only
  rw [List.getElem?_append_right (Nat.le_of_eq hlen), hlen, Nat.sub_self]
  rfl

variable {step}

theorem serially_map {σ' γ' α' : Type} {step' : σ' → γ' → α' × σ'} {state : σ → σ'} {call : γ → γ'}
    {answer : α → α'}
    (h : ∀ s c, step' (state s) (call c) = (answer (step s c).1, state (step s c).2)) (s : σ)
    (calls : List γ) :
    serially step' (state s) (calls.map call) =
      ((serially step s calls).1.map answer, state (serially step s calls).2) := by
  induction calls generalizing s with
  | nil => rfl
  | cons c rest ih => simp [serially, h, ih]

theorem serially_induction {P : σ → List γ → Prop} {s : σ} (init : P s [])
    (next : ∀ s past c, P s past → P (step s c).2 (past ++ [c])) (calls : List γ) :
    P (serially step s calls).2 calls := by
  induction calls using List.reverseRecOn with
  | nil => exact init
  | append_singleton past c ih =>
    rw [serially_append]
    exact next _ past c ih

theorem serially_filter {step' : σ → γ → α × σ} {p : γ → Bool} {calls : List γ}
    (hskip : ∀ c ∈ calls, p c = false → ∀ s, (step s c).2 = s)
    (hkeep : ∀ c ∈ calls, p c = true → ∀ s, step s c = step' s c) (s : σ) :
    ((calls.zip (serially step s calls).1).filter fun x => p x.1).map Prod.snd =
        (serially step' s (calls.filter p)).1 ∧
      (serially step s calls).2 = (serially step' s (calls.filter p)).2 := by
  induction calls generalizing s with
  | nil => exact ⟨rfl, rfl⟩
  | cons c rest ih =>
    have hrest := ih (fun d hd => hskip d (List.mem_cons_of_mem c hd))
      (fun d hd => hkeep d (List.mem_cons_of_mem c hd)) (step s c).2
    cases hc : p c with
    | false =>
      have hsame := hskip c List.mem_cons_self hc s
      rw [hsame] at hrest
      simpa [serially, hc, hsame] using hrest
    | true =>
      have hstep := hkeep c List.mem_cons_self hc s
      simpa [serially, hc, hstep] using hrest

end EndpointGate
