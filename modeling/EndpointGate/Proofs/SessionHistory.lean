import EndpointGate.Proofs.CallSequence
import EndpointGate.Session.Store

/-! What a session shows is decided by the last call that touched it: the document, if that call wrote one
and it is still alive. Calls on other ids do not matter, and neither do evictions, whenever they come. -/

namespace EndpointGate

inductive SessionDeed
  | start (document : Json)
  | store (document : Json)
  | get
  | finish

inductive SessionCall
  | on (id : String) (deed : SessionDeed)
  | evict

structure TimedCall where
  now : Int
  call : SessionCall

inductive SessionAnswer
  | started
  | stored (result : Except SessionError Unit)
  | found (document : Option Json)
  | evicted (count : Nat)

namespace TimedCall

def among (ids : String → Bool) (c : TimedCall) : Bool :=
  match c.call with
  | .on id _ => ids id
  | .evict => false

def touch? (id : String) (c : TimedCall) : Option (Int × Option Json) :=
  match c.call with
  | .on i deed =>
    if i ≠ id then none
    else match deed with
      | .start document => some (c.now, some document)
      | .store document => if Text.allBlank id then none else some (c.now, some document)
      | .get => none
      | .finish => some (c.now, none)
  | .evict => none

end TimedCall

/-- Each eviction has read the clock by the time that the calls after it do. So it is when no reading goes
back, though evictions be overtaken between their reading and their work. -/
def Timely (calls : List TimedCall) : Prop :=
  calls.Pairwise fun a b => a.call = .evict → b.call ≠ .evict → a.now ≤ b.now

theorem Timely.before {past : List TimedCall} {c : TimedCall} {after : List TimedCall}
    (h : Timely (past ++ c :: after)) (hc : c.call ≠ .evict) :
    ∀ b ∈ past, b.call = .evict → b.now ≤ c.now := by
  intro b hb hevict
  exact (List.pairwise_append.mp h).2.2 b hb c List.mem_cons_self hevict hc

def lastTouch? (id : String) (calls : List TimedCall) : Option (Int × Option Json) :=
  calls.reverse.findSome? (TimedCall.touch? id)

theorem lastTouch?_concat (id : String) (past : List TimedCall) (c : TimedCall) :
    lastTouch? id (past ++ [c]) = (c.touch? id).or (lastTouch? id past) := by
  rw [lastTouch?, List.reverse_concat, List.findSome?_cons]
  cases c.touch? id <;> rfl

def lastLeft? (id : String) (calls : List TimedCall) : Option Session :=
  (lastTouch? id calls).bind fun p => p.2.map fun document => ⟨id, document, p.1⟩

namespace Sessions

def answer (s : Sessions) (c : TimedCall) : SessionAnswer × Sessions :=
  match c.call with
  | .on id (.start document) => (.started, s.start id document c.now)
  | .on id (.store document) => match s.store id document c.now with
    | .ok s => (.stored (.ok ()), s)
    | .error e => (.stored (.error e), s)
  | .on id .get => (.found (s.get? id c.now), s)
  | .on id .finish => (.found (s.finish id c.now).1, (s.finish id c.now).2)
  | .evict => (.evicted (s.evict c.now).1, (s.evict c.now).2)

def answers (s : Sessions) (calls : List TimedCall) : List SessionAnswer × Sessions :=
  serially answer s calls

def answersAmong (ids : String → Bool) (s : Sessions) (calls : List TimedCall) : List SessionAnswer :=
  ((calls.zip (s.answers calls).1).filter fun p => p.1.among ids).map Prod.snd

def Lives (s : Sessions) (writtenAt now : Int) : Prop :=
  match s.ttl with
  | none => True
  | some ttl => ¬ (s.earliest ≤ writtenAt + ttl ∧ writtenAt + ttl ≤ s.latest) ∨ now < writtenAt + ttl

variable {s : Sessions}

theorem isExpired_eq_false_iff {now : Int} {e : Session} :
    s.isExpired now e = false ↔ s.Lives e.writtenAt now := by
  unfold isExpired Lives
  cases s.ttl with
  | none => simp
  | some ttl =>
    simp only [Bool.and_eq_false_iff, decide_eq_false_iff_not]
    omega

theorem isExpired_mono {now later : Int} {e : Session} (h : now ≤ later)
    (he : s.isExpired now e = true) : s.isExpired later e = true := by
  unfold isExpired at he ⊢
  cases hs : s.ttl with
  | none => simp [hs] at he
  | some ttl =>
    simp only [hs, Bool.and_eq_true, decide_eq_true_eq] at he ⊢
    omega

section Entries

theorem entry?_erase (s : Sessions) (i id : String) :
    Sessions.entry? (s.erase i) id = if i = id then none else s.entry? id := by
  unfold entry? erase
  rw [List.find?_filter]
  split_ifs with h
  · simp [h]
  · have hpred : ∀ e : Session, decide ((e.id != i) = true ∧ (e.id == id) = true) = (e.id == id) := by
      intro e
      by_cases he : e.id = id
      · simp [he, Ne.symm h]
      · simp [he]
    simp only [hpred]

theorem entry?_write (s : Sessions) (i : String) (document : Json) (now : Int) (id : String) :
    Sessions.entry? (s.write i document now) id =
      if i = id then some ⟨id, document, now⟩ else s.entry? id := by
  have hold := entry?_erase s i id
  unfold entry? write
  split_ifs with h
  · simp [h]
  · rw [if_neg h] at hold
    rw [List.find?_cons_of_neg (by simpa using h)]
    exact hold

def Distinct (s : Sessions) : Prop := s.entries.Pairwise fun a b => a.id ≠ b.id

theorem entry?_evict (h : s.Distinct) (now : Int) (id : String) :
    Sessions.entry? (s.evict now).2 id = (s.entry? id).filter fun e => !s.isExpired now e := by
  have hfind : ∀ es : List Session, (es.Pairwise fun a b => a.id ≠ b.id) →
      (es.filter fun e => !s.isExpired now e).find? (·.id == id) =
        (es.find? (·.id == id)).filter fun e => !s.isExpired now e := by
    intro es hes
    induction es with
    | nil => rfl
    | cons e rest ih =>
      obtain ⟨hne, hrest⟩ := List.pairwise_cons.mp hes
      by_cases hid : e.id = id
      · by_cases halive : s.isExpired now e
        · have hnone : ∀ x ∈ rest, ¬ (x.id == id) = true := by
            intro x hx hxid
            exact hne x hx (hid.trans (eq_of_beq hxid).symm)
          have hgone : rest.find? (·.id == id) = none := List.find?_eq_none.mpr hnone
          simp [hid, halive, ih hrest, hgone, Option.filter]
        · simp [hid, halive, Option.filter]
      · by_cases halive : s.isExpired now e <;> simp [hid, halive, ih hrest]
  exact hfind s.entries h

theorem Distinct.erase (h : s.Distinct) (id : String) : (s.erase id).Distinct :=
  h.filter _

theorem Distinct.write (h : s.Distinct) (id : String) (document : Json) (now : Int) :
    (s.write id document now).Distinct := by
  refine List.pairwise_cons.mpr ⟨?_, h.erase id⟩
  intro e he
  have hne : e.id ≠ id := bne_iff_ne.mp (List.mem_filter.mp he).2
  exact hne.symm

theorem Distinct.next (h : s.Distinct) (c : TimedCall) : (s.answer c).2.Distinct := by
  unfold answer
  cases c.call with
  | evict => exact h.filter _
  | on id deed =>
    cases deed with
    | start document => exact h.write id document c.now
    | get => exact h
    | finish => exact h.erase id
    | store document =>
      by_cases hid : Text.allBlank id
      · simpa [store, hid] using h
      · simpa [store, hid] using h.write id document c.now

theorem entry?_answer (s : Sessions) {c : TimedCall} (hc : c.call ≠ .evict) (id : String) :
    Sessions.entry? (s.answer c).2 id = match c.touch? id with
      | some (now, left) => left.map fun document => ⟨id, document, now⟩
      | none => s.entry? id := by
  obtain ⟨now, call⟩ := c
  cases call with
  | evict => exact absurd rfl hc
  | on i deed =>
    cases deed with
    | start document => by_cases hi : i = id <;> simp [answer, TimedCall.touch?, start, entry?_write, hi]
    | get => by_cases hi : i = id <;> simp [answer, TimedCall.touch?, hi]
    | finish => by_cases hi : i = id <;> simp [answer, TimedCall.touch?, finish, entry?_erase, hi]
    | store document =>
      by_cases hid : Text.allBlank i <;> by_cases hi : i = id <;>
        simp_all [answer, TimedCall.touch?, store, entry?_write]

end Entries

/-- What the state remembers of the calls that led to it from another: of each session what the last
touch left, unless an eviction has found it to be over. -/
structure Recalls (s₀ s : Sessions) (past : List TimedCall) : Prop where
  expired : s.isExpired = s₀.isExpired
  distinct : s.Distinct
  entry : ∀ id, s.entry? id = lastLeft? id past ∨
    s.entry? id = none ∧ ∃ x, lastLeft? id past = some x ∧
      ∃ c ∈ past, c.call = .evict ∧ s₀.isExpired c.now x = true

theorem expired_answer (s : Sessions) (c : TimedCall) : (s.answer c).2.isExpired = s.isExpired := by
  obtain ⟨now, call⟩ := c
  cases call with
  | evict => rfl
  | on id deed =>
    cases deed with
    | start | get | finish => rfl
    | store document => by_cases hid : Text.allBlank id <;> simp only [answer, store, hid] <;> rfl

theorem lastLeft?_concat (id : String) (past : List TimedCall) (c : TimedCall) :
    lastLeft? id (past ++ [c]) = match c.touch? id with
      | some (now, left) => left.map fun document => ⟨id, document, now⟩
      | none => lastLeft? id past := by
  rw [lastLeft?, lastTouch?_concat]
  cases c.touch? id <;> rfl

theorem Recalls.next {s₀ : Sessions} {past : List TimedCall} (h : Recalls s₀ s past) (c : TimedCall) :
    Recalls s₀ (s.answer c).2 (past ++ [c]) := by
  have hkept : ∀ {x}, (∃ b ∈ past, b.call = .evict ∧ s₀.isExpired b.now x = true) →
      ∃ b ∈ past ++ [c], b.call = .evict ∧ s₀.isExpired b.now x = true := by
    rintro x ⟨b, hb, hover⟩
    exact ⟨b, List.mem_append_left _ hb, hover⟩
  refine ⟨(expired_answer s c).trans h.expired, h.distinct.next c, fun id => ?_⟩
  by_cases hc : c.call = .evict
  · -- an eviction takes away only what it finds to be over
    have hentry : Sessions.entry? (s.answer c).2 id =
        (s.entry? id).filter fun e => !s.isExpired c.now e := by
      rw [answer, hc]
      exact entry?_evict h.distinct c.now id
    have htouch : c.touch? id = none := by rw [TimedCall.touch?, hc]
    rw [hentry, lastLeft?_concat, htouch, h.expired]
    rcases h.entry id with hsame | ⟨hgone, x, hx, hover⟩
    · rw [hsame]
      cases hx : lastLeft? id past with
      | none => exact .inl rfl
      | some x =>
        by_cases hover : s₀.isExpired c.now x = true
        · refine .inr ⟨by simp [Option.filter, hover], x, rfl, c, ?_, hc, hover⟩
          exact List.mem_append_right _ (List.mem_singleton.mpr rfl)
        · exact .inl (by simp [Option.filter, hover])
    · exact .inr ⟨by rw [hgone]; rfl, x, hx, hkept hover⟩
  · rw [entry?_answer s hc, lastLeft?_concat]
    cases c.touch? id with
    | some p => exact .inl rfl
    | none =>
      rcases h.entry id with hsame | ⟨hgone, x, hx, hover⟩
      · exact .inl hsame
      · exact .inr ⟨hgone, x, hx, hkept hover⟩

theorem recalls_answers {s₀ : Sessions} (hnew : s₀.entries = []) (calls : List TimedCall) :
    Recalls s₀ (s₀.answers calls).2 calls := by
  refine serially_induction ?_ (fun s past c h => h.next c) calls
  refine ⟨rfl, by simp [Distinct, hnew], fun id => .inl ?_⟩
  unfold entry?
  simp [hnew, lastLeft?, lastTouch?]

theorem Recalls.get?_eq {s₀ : Sessions} {past : List TimedCall} (h : Recalls s₀ s past) {now : Int}
    (hpast : ∀ c ∈ past, c.call = .evict → c.now ≤ now) (id : String) :
    s.get? id now =
      ((lastLeft? id past).filter fun e => !s₀.isExpired now e).map Session.document := by
  rw [get?, h.expired]
  rcases h.entry id with hsame | ⟨hgone, x, hx, c, hc, hevict, hover⟩
  · rw [hsame]
  · -- what an eviction has taken away was over then and still is
    have hstill := isExpired_mono (hpast c hc hevict) hover
    simp [hgone, hx, hstill, Option.filter]

theorem shown_iff {id : String} {past : List TimedCall} {now : Int} {d : Json} :
    ((lastLeft? id past).filter fun e => !s.isExpired now e).map Session.document = some d ↔
      ∃ t₀, lastTouch? id past = some (t₀, some d) ∧ s.Lives t₀ now := by
  rw [lastLeft?]
  cases hlast : lastTouch? id past with
  | none => simp
  | some p =>
    obtain ⟨t₀, left⟩ := p
    cases left with
    | none => simp
    | some document =>
      have halive := @isExpired_eq_false_iff s now ⟨id, document, t₀⟩
      cases hover : s.isExpired now ⟨id, document, t₀⟩ <;> simp_all [Option.filter]

theorem Recalls.answer_eq {s₀ s' : Sessions} {past past' : List TimedCall} {c : TimedCall}
    (h : Recalls s₀ s past) (h' : Recalls s₀ s' past')
    (hpast : ∀ b ∈ past, b.call = .evict → b.now ≤ c.now)
    (hpast' : ∀ b ∈ past', b.call = .evict → b.now ≤ c.now)
    (hsame : ∀ id, c.among (· == id) → lastLeft? id past = lastLeft? id past')
    (hc : c.call ≠ .evict) : (s.answer c).1 = (s'.answer c).1 := by
  obtain ⟨now, call⟩ := c
  cases call with
  | evict => exact absurd rfl hc
  | on id deed =>
    have hget : s.get? id now = s'.get? id now := by
      rw [h.get?_eq hpast, h'.get?_eq hpast', hsame id (beq_self_eq_true id)]
    cases deed with
    | start document => rfl
    | get | finish => simp only [answer, finish, hget]
    | store document =>
      by_cases hid : Text.allBlank id <;> simp only [answer, store, hid] <;> rfl

theorem lastTouch?_among {ids : String → Bool} {id : String} (hid : ids id = true)
    (calls : List TimedCall) :
    lastTouch? id (calls.filter (TimedCall.among ids)) = lastTouch? id calls := by
  induction calls using List.reverseRecOn with
  | nil => rfl
  | append_singleton past c ih =>
    rw [List.filter_append, lastTouch?_concat, ← ih]
    by_cases hc : c.among ids
    · rw [List.filter_cons_of_pos hc, List.filter_nil, lastTouch?_concat]
    · have htouch : c.touch? id = none := by
        obtain ⟨now, call⟩ := c
        cases call with
        | evict => rfl
        | on i deed =>
          have hne : i ≠ id := by
            rintro rfl
            exact hc hid
          simp [TimedCall.touch?, hne]
      simp [hc, htouch]

theorem answersAmong_concat (ids : String → Bool) (s : Sessions) (past : List TimedCall) (c : TimedCall) :
    s.answersAmong ids (past ++ [c]) =
      s.answersAmong ids past ++ if c.among ids then [((s.answers past).2.answer c).1] else [] := by
  have hlen := length_serially answer s past
  rw [answersAmong, answers, serially_append, List.zip_append hlen.symm, List.filter_append,
    List.map_append]
  by_cases hc : c.among ids <;> simp [hc, serially, answersAmong, answers]

theorem answersAmong_eq {s₀ : Sessions} (hnew : s₀.entries = []) (ids : String → Bool)
    {calls : List TimedCall} (h : Timely calls) :
    s₀.answersAmong ids calls = (s₀.answers (calls.filter (TimedCall.among ids))).1 := by
  induction calls using List.reverseRecOn with
  | nil => rfl
  | append_singleton past c ih =>
    have hpast : Timely past := (List.pairwise_append.mp h).1
    rw [answersAmong_concat, ih hpast, List.filter_append]
    simp only [answers]
    rw [serially_append _ s₀ (past.filter _)]
    by_cases hc : c.among ids
    · have hevict : c.call ≠ .evict := by
        intro hcall
        simp [TimedCall.among, hcall] at hc
      have hnone : ∀ b ∈ past.filter (TimedCall.among ids), b.call = .evict → b.now ≤ c.now := by
        intro b hb hcall
        simp [TimedCall.among, hcall] at hb
      have hsame : ∀ id, c.among (· == id) →
          lastLeft? id past = lastLeft? id (past.filter (TimedCall.among ids)) := by
        intro id hid
        have hmem : ids id = true := by
          cases hcall : c.call <;> simp_all [TimedCall.among]
        rw [lastLeft?, lastLeft?, lastTouch?_among hmem]
      have hanswer := (recalls_answers hnew past).answer_eq
        (recalls_answers hnew (past.filter (TimedCall.among ids))) (h.before hevict) hnone hsame hevict
      simp only [answers] at hanswer
      simp [hc, serially, hanswer]
    · simp [hc, serially]

theorem evict_exact (s : Sessions) (now : Int) :
    ∃ gone : List Session, (s.evict now).1 = gone.length ∧
      (gone ++ (s.evict now).2.entries).Perm s.entries ∧
      (∀ e ∈ gone, ¬ s.Lives e.writtenAt now) ∧
      ∀ e ∈ (s.evict now).2.entries, s.Lives e.writtenAt now := by
  have hperm := List.filter_append_perm (s.isExpired now) s.entries
  refine ⟨s.entries.filter (s.isExpired now), ?_, hperm, fun e he => ?_, fun e he => ?_⟩
  · have hlen := hperm.length_eq
    rw [List.length_append] at hlen
    simp only [evict]
    omega
  · rw [← isExpired_eq_false_iff]
    simp [(List.mem_filter.mp he).2]
  · rw [← isExpired_eq_false_iff]
    simpa using (List.mem_filter.mp he).2

/-- What a look at a session or its end gives is the document of the last call that touched it, if that
call wrote one and it is still alive. What is done to other ids does not matter, nor when or how often
sessions are evicted. A look changes nothing, nor does a document for a blank id. -/
theorem history_shown {s : Sessions} (hnew : s.entries = []) {calls : List TimedCall}
    (htimely : Timely calls) :
    (∀ past c after id, calls = past ++ c :: after → c.call = .on id .get ∨ c.call = .on id .finish →
      ∃ shown, (s.answers calls).1[past.length]? = some (.found shown) ∧
        ∀ d, shown = some d ↔ ∃ t₀, lastTouch? id past = some (t₀, some d) ∧ s.Lives t₀ c.now) ∧
    (∀ ids, s.answersAmong ids calls = (s.answers (calls.filter (TimedCall.among ids))).1) ∧
    (∀ (t : Sessions) (now : Int),
      (∀ id, (t.answer ⟨now, .on id .get⟩).2 = t) ∧
      (∀ id d, Text.allBlank id →
        t.answer ⟨now, .on id (.store d)⟩ = (.stored (.error .invalidId), t)) ∧
      ∃ gone, (t.answer ⟨now, .evict⟩).1 = .evicted gone.length ∧
        (gone ++ (t.answer ⟨now, .evict⟩).2.entries).Perm t.entries ∧
        (∀ e ∈ gone, ¬ t.Lives e.writtenAt now) ∧
        ∀ e ∈ (t.answer ⟨now, .evict⟩).2.entries, t.Lives e.writtenAt now) := by
  refine ⟨?_, fun ids => answersAmong_eq hnew ids htimely, fun t now => ⟨fun id => rfl, ?_, ?_⟩⟩
  · rintro past ⟨now, call⟩ after id rfl hc
    have hanswer := getElem?_serially answer s past ⟨now, call⟩ after
    have hevict : call ≠ .evict := by rcases hc with rfl | rfl <;> simp
    have hget := (recalls_answers hnew past).get?_eq (htimely.before hevict) id
    refine ⟨(s.answers past).2.get? id now, ?_, fun d => ?_⟩
    · rcases hc with rfl | rfl <;> exact hanswer
    · rw [hget]
      exact shown_iff
  · intro id d hid
    simp only [answer, store, hid]
    rfl
  · obtain ⟨gone, hcount, hrest⟩ := t.evict_exact now
    exact ⟨gone, congrArg SessionAnswer.evicted hcount, hrest⟩

theorem history_shown_overtaken :
    let s : Sessions := { ttl := some 10 }
    let calls : List TimedCall := [⟨0, .on "a" (.store (.int 1))⟩, ⟨12, .on "a" (.store (.int 2))⟩,
      ⟨11, .evict⟩, ⟨13, .on "a" .get⟩]
    (s.answers calls).1[3]? = some (.found (some (.int 2))) ∧
      s.answersAmong (· == "a") calls = (s.answers (calls.filter (TimedCall.among (· == "a")))).1 := by
  intro s calls
  have htimely : Timely calls := by simp [Timely, calls]
  obtain ⟨hshown, hamong, -⟩ := history_shown (s := s) rfl htimely
  obtain ⟨shown, hanswer, hiff⟩ := hshown (calls.take 3) ⟨13, .on "a" .get⟩ [] "a" rfl (.inl rfl)
  have hid : Text.allBlank "a" = false := by decide
  have hlast : lastTouch? "a" (calls.take 3) = some (12, some (.int 2)) := by
    simp [calls, lastTouch?, List.findSome?_cons, TimedCall.touch?, hid]
  have hlives : s.Lives 12 13 := .inr (by decide)
  rw [(hiff (.int 2)).mpr ⟨12, hlast, hlives⟩] at hanswer
  exact ⟨hanswer, hamong _⟩

end Sessions

end EndpointGate
