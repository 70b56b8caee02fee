import EndpointGate.Gateway.Service
import EndpointGate.Proofs.EndpointLookup
import EndpointGate.Proofs.RowValidation

/-! What becomes of an invocation. Credential, endpoint and rows are checked in this order, the first
check that fails decides, and only an invocation that passes them all reaches the engine. -/

namespace EndpointGate

namespace Descriptor

def lacking (d : Descriptor) (row : Row) : List String := d.fields.filter fun f => ¬Carries row f

def firstLacking? (d : Descriptor) (rows : List Row) : Option (Nat × List String) :=
  (rows.zipIdx.find? fun p => d.lacking p.1 ≠ []).map fun p => (p.2 + 1, d.lacking p.1)

theorem missingFrom_eq_lacking (d : Descriptor) (row : Row) : d.missingFrom row = d.lacking row := by
  have hfields : d.missingFrom row =
      d.fields.filter fun f => !(row.keys.map Text.lowercase).contains (Text.lowercase f) := by
    simp [missingFrom, folded, List.filter_map, Function.comp_def]
  rw [hfields, lacking]
  congr 1
  funext f
  rw [Bool.eq_iff_iff]
  simp [Carries]

theorem checkRows_eq_firstLacking (d : Descriptor) (rows : List Row) :
    d.checkRows 0 rows = match d.firstLacking? rows with
      | none => .ok ()
      | some (k, missing) => .error (.missingFields k missing) := by
  rw [checkRows_eq, firstLacking?]
  simp only [missingFrom_eq_lacking]
  cases rows.zipIdx.find? fun p => d.lacking p.1 ≠ [] <;> simp

end Descriptor

def InvocationBody.rows : InvocationBody → List Row
  | .single row => [row]
  | .batch rows => rows

/-- What is wrong with the rows of a body. A batch needs a descriptor; a single row needs none, but must
meet the one there is. -/
def InvocationBody.fault? (catalog : Catalog) (endpoint : String) (body : InvocationBody) :
    Option ValidationFailure :=
  match body, catalog.descriptors.get? (Text.lowercase endpoint) with
  | .batch [], _ => some .emptyBatch
  | .batch _, none => some (.unknownDescriptor endpoint)
  | .single _, none => none
  | body, some d => (d.firstLacking? body.rows).map fun p => .missingFields p.1 p.2

def Invocation.verdict (catalog : Catalog) (ds : List Definition) (i : Invocation) :
    Except GatewayError Definition :=
  match i.credential.filter (· ≠ "") with
  | none => .error .authRejected
  | some credential => match lowest? ds ⟨i.endpoint, Text.upperAscii i.method⟩ credential with
    | none => .error .notResolved
    | some d => match i.body.fault? catalog i.endpoint with
      | some f => .error (.validationRejected f)
      | none => .ok d

namespace Gateway

variable {g : Gateway} {i : Invocation} {ds : List Definition}

theorem validate_eq (endpoint : String) (d : Descriptor) (b : Batch) :
    ((validate endpoint (some d) b).mapError GatewayError.validationRejected).map (fun _ => b) =
      match (d.firstLacking? b.rows).map fun p => ValidationFailure.missingFields p.1 p.2 with
      | none => .ok b
      | some f => .error (.validationRejected f) := by
  rw [validate, Descriptor.checkRows_eq_firstLacking]
  cases d.firstLacking? b.rows <;> rfl

theorem batchOf_eq (g : Gateway) (endpoint : String) (body : InvocationBody) :
    match body.fault? g.catalog endpoint with
    | none => ∃ b : Batch, b.rows = body.rows ∧ g.batchOf endpoint body = .ok b
    | some f => g.batchOf endpoint body = .error (.validationRejected f) := by
  have hget : g.catalog.descriptors.get? (Text.lowercase endpoint) = g.catalog.get? endpoint := rfl
  -- what the descriptor says of rows decides, for rows of either form
  have hchecked : ∀ (d : Descriptor) (b : Batch), b.rows = body.rows →
      g.batchOf endpoint body = ((validate endpoint (some d) b).mapError
        GatewayError.validationRejected).map (fun _ => b) →
      match (d.firstLacking? body.rows).map fun p => ValidationFailure.missingFields p.1 p.2 with
      | none => ∃ b : Batch, b.rows = body.rows ∧ g.batchOf endpoint body = .ok b
      | some f => g.batchOf endpoint body = .error (.validationRejected f) := by
    intro d b hb he
    rw [he, validate_eq, hb]
    cases (d.firstLacking? body.rows).map fun p => ValidationFailure.missingFields p.1 p.2 with
    | none => exact ⟨b, hb, rfl⟩
    | some f => rfl
  cases body with
  | single row =>
    cases hd : g.catalog.get? endpoint with
    | none =>
      simp only [InvocationBody.fault?, hget, hd]
      exact ⟨.single row, rfl, by simp [batchOf, hd]⟩
    | some d =>
      simp only [InvocationBody.fault?, hget, hd]
      exact hchecked d (.single row) rfl (by simp [batchOf, hd])
  | batch rows =>
    cases rows with
    | nil => simp [InvocationBody.fault?, batchOf, Batch.ofRows?]
    | cons row rest =>
      cases hd : g.catalog.get? endpoint with
      | none =>
        simp only [InvocationBody.fault?, hget, hd]
        simp only [batchOf, hd, Batch.ofRows?, validate, reduceCtorEq]
        rfl
      | some d =>
        simp only [InvocationBody.fault?, hget, hd]
        exact hchecked d ⟨row :: rest, by simp⟩ rfl (by simp [batchOf, hd, Batch.ofRows?])

theorem rows_of_batchOf {endpoint : String} {body : InvocationBody} {b : Batch}
    (hb : g.batchOf endpoint body = .ok b) : b.rows = body.rows := by
  have hrows := batchOf_eq g endpoint body
  cases hf : body.fault? g.catalog endpoint with
  | none =>
    simp only [hf] at hrows
    obtain ⟨b', hb', hok⟩ := hrows
    obtain rfl := Except.ok.inj (hb.symm.trans hok)
    exact hb'
  | some f =>
    simp only [hf, hb] at hrows
    cases hrows

theorem fault_of_batchOf {endpoint : String} {body : InvocationBody} {e : GatewayError}
    (he : g.batchOf endpoint body = .error e) :
    ∃ f, body.fault? g.catalog endpoint = some f ∧ e = .validationRejected f := by
  have hrows := batchOf_eq g endpoint body
  cases hf : body.fault? g.catalog endpoint with
  | none =>
    simp only [hf] at hrows
    obtain ⟨b, -, hok⟩ := hrows
    cases he.symm.trans hok
  | some f =>
    simp only [hf] at hrows
    exact ⟨f, rfl, Except.error.inj (he.symm.trans hrows)⟩

section Handling

variable {α β : Type} {c c' : Call} {m : Handling α}

theorem run_bind_ok {a : α} (h : m.run c = (.ok a, c')) (k : α → Handling β) :
    (m >>= k).run c = (k a).run c' := by
  simp only [ExceptT.run] at h
  simp [bind, ExceptT.bind, ExceptT.run, ExceptT.mk, StateT.bind, h, ExceptT.bindCont]

theorem run_bind_error {e : GatewayError} (h : m.run c = (.error e, c')) (k : α → Handling β) :
    (m >>= k).run c = (.error e, c') := by
  simp only [ExceptT.run] at h
  simp [bind, ExceptT.bind, ExceptT.run, ExceptT.mk, StateT.bind, h, ExceptT.bindCont]
  rfl

theorem run_advance (c : Call) (next : RequestState) (h : c.lifecycle.state.allows next = true) :
    ∃ c' : Call, (Handling.advance next).run c = (.ok (), c') ∧ c'.lifecycle.state = next ∧
      c'.holdings = c.holdings := by
  obtain ⟨l, j, hadv, hstate⟩ : ∃ l j, c.lifecycle.advance next c.journal = .ok (l, j) ∧
      l.state = next := by
    simp [Lifecycle.advance, RequestState.transition, h]
  refine ⟨{ c with lifecycle := l, journal := j }, ?_, hstate, rfl⟩
  simp [Handling.advance, ExceptT.run, hadv]

theorem run_ofExcept (x : Except GatewayError α) (c : Call) :
    (Handling.ofExcept x).run c = (x, c) := by
  cases x <;> rfl

end Handling

section Resolution

variable {h : Holdings}

theorem resolve_eq (hds : g.registry.Holds h ds)
    (hr : ∀ credential, i.credential = some credential → credential ≠ "" →
      ∃ found, g.registry.resolve (.of i.endpoint i.method) credential h = .ok found) :
    g.resolve i.endpoint i.method i.credential h =
      match i.credential.filter (· ≠ "") with
      | none => .error .authRejected
      | some credential => match lowest? ds ⟨i.endpoint, Text.upperAscii i.method⟩ credential with
        | none => .error .notResolved
        | some d => .ok d := by
  unfold resolve
  cases hc : i.credential with
  | none => rfl
  | some credential =>
    by_cases he : credential = ""
    · simp [he, Option.filter]
    · obtain ⟨found, hfound⟩ := hr credential hc he
      have hlow := Registry.resolve_eq_lowest hds hfound
      simp only [EndpointKey.of] at hfound hlow
      have hne : credential.isEmpty = false := by simpa using he
      have hfilter : (some credential).filter (· ≠ "") = some credential := by
        simp [Option.filter, he]
      rw [hfilter]
      simp only [hne, EndpointKey.of, hfound]
      subst hlow
      cases hd : lowest? ds ⟨i.endpoint, Text.upperAscii i.method⟩ credential with
      | none => rfl
      | some d =>
        have hadmits := (d.admits_iff credential).mpr (answers_of_lowest? hd).2.2
        simp [hadmits]

end Resolution

section Engine

theorem execute_journal (t : Template) (b : Batch) (s : Store) (j j' : Journal) :
    (Engine.execute t b s j).1 = (Engine.execute t b s j').1 ∧
      (Engine.execute t b s j).2.1 = (Engine.execute t b s j').2.1 := by
  have habandon : ∀ c, (Engine.abandon c j).1 = (Engine.abandon c j').1 := by
    intro c
    unfold Engine.abandon
    cases c.rollback <;> rfl
  unfold Engine.execute
  cases s.connect with
  | error e => exact ⟨rfl, rfl⟩
  | ok c =>
    rcases hrun : c.run (.begin true) [] with ⟨f | out, c₁⟩
    · simp [hrun]
    · rcases hrows : Engine.applyRows t.plan 0 c₁ b.rows with ⟨⟨row, e⟩ | changed, c₂⟩
      · simp [hrun, hrows, habandon]
      · cases hcommit : c₂.commit <;> simp [hrun, hrows, hcommit]

theorem run_execute (t : Template) (b : Batch) (c : Call) (j : Journal) :
    ∃ c' : Call, (execute t b).run c =
      ((Engine.execute t b c.holdings.store j).1.mapError .executionFailed, c') ∧
      c'.lifecycle = c.lifecycle ∧
      c'.holdings = { c.holdings with store := (Engine.execute t b c.holdings.store j).2.1 } := by
  obtain ⟨hr, hs⟩ := execute_journal t b c.holdings.store c.journal j
  refine ⟨((execute t b).run c).2, ?_, rfl, ?_⟩
  · rw [← hr]
    rfl
  · rw [← hs]
    rfl

end Engine

section Invocation

variable {c : Call} {d : Definition}

theorem run_of_refused {e : GatewayError}
    (he : g.resolve i.endpoint i.method i.credential c.holdings = .error e) :
    (g.runInvocation i).run c = (.error e, c) := by
  have hget : (get : Handling Call).run c = (.ok c, c) := rfl
  rw [runInvocation, run_bind_ok hget, he]
  exact run_bind_error (run_ofExcept _ c) _

theorem run_of_unfit {e : GatewayError} (hs : c.lifecycle.state = .received)
    (hd : g.resolve i.endpoint i.method i.credential c.holdings = .ok d)
    (he : g.batchOf i.endpoint i.body = .error e) :
    ∃ c', (g.runInvocation i).run c = (.error e, c') ∧ c'.holdings = c.holdings := by
  have hget : (get : Handling Call).run c = (.ok c, c) := rfl
  obtain ⟨c₁, h₁, -, hh₁⟩ := run_advance c .resolved (by rw [hs]; rfl)
  refine ⟨c₁, ?_, hh₁⟩
  rw [runInvocation, run_bind_ok hget, hd, run_bind_ok (run_ofExcept _ c), run_bind_ok h₁, he]
  exact run_bind_error (run_ofExcept _ c₁) _

theorem run_of_fit {b : Batch} (hs : c.lifecycle.state = .received)
    (hd : g.resolve i.endpoint i.method i.credential c.holdings = .ok d)
    (hb : g.batchOf i.endpoint i.body = .ok b) (j : Journal) :
    ∃ c', (g.runInvocation i).run c = ((Engine.execute ⟨d.sqlTemplate⟩ b c.holdings.store j).1.mapError
        .executionFailed, c') ∧ c'.holdings =
        { c.holdings with store := (Engine.execute ⟨d.sqlTemplate⟩ b c.holdings.store j).2.1 } := by
  have hget : (get : Handling Call).run c = (.ok c, c) := rfl
  obtain ⟨c₁, h₁, hs₁, hh₁⟩ := run_advance c .resolved (by rw [hs]; rfl)
  obtain ⟨c₂, h₂, hs₂, hh₂⟩ := run_advance c₁ .validated (by rw [hs₁]; rfl)
  obtain ⟨c₃, h₃, hs₃, hh₃⟩ := run_advance c₂ .executing (by rw [hs₂]; rfl)
  have hh : c₃.holdings = c.holdings := hh₃.trans (hh₂.trans hh₁)
  obtain ⟨c₄, h₄, hl₄, hh₄⟩ := run_execute ⟨d.sqlTemplate⟩ b c₃ j
  rw [hh] at h₄ hh₄
  rw [runInvocation, run_bind_ok hget, hd, run_bind_ok (run_ofExcept _ c), run_bind_ok h₁, hb,
    run_bind_ok (run_ofExcept _ c₁), run_bind_ok h₂, run_bind_ok h₃]
  cases hx : (Engine.execute ⟨d.sqlTemplate⟩ b c.holdings.store j).1 with
  | error e =>
    rw [hx] at h₄
    exact ⟨c₄, run_bind_error h₄ _, hh₄⟩
  | ok o =>
    rw [hx] at h₄
    obtain ⟨c₅, h₅, -, hh₅⟩ := run_advance c₄ .committed (by rw [hl₄, hs₃]; rfl)
    refine ⟨c₅, ?_, hh₅.trans hh₄⟩
    rw [run_bind_ok h₄, run_bind_ok h₅]
    rfl

end Invocation

theorem invoke_of_run (g : Gateway) (i : Invocation) (s : Running) :
    ∃ c : Call, c.lifecycle.state = .received ∧ c.holdings = s.holdings ∧
      ∀ x c', (g.runInvocation i).run c = (x, c') →
        (g.invoke i s).1 = x ∧ (g.invoke i s).2.holdings = c'.holdings := by
  let start := Lifecycle.start i.endpoint i.method s.journal
  refine ⟨⟨start.1, s.holdings, start.2⟩, rfl, rfl, fun x c' hrun => ?_⟩
  have hhandle : handle i.endpoint i.method (g.runInvocation i) s = (x, c') := hrun
  unfold invoke
  rw [hhandle]
  cases x <;> exact ⟨rfl, rfl⟩

/-- An invocation is refused for the first of its faults, with the store as it was, or else it runs the
template of the definition of the lowest id on the rows of its body. -/
theorem invoke_eq_verdict (g : Gateway) (s : Running) (ds : List Definition) (i : Invocation)
    (hds : g.registry.Holds s.holdings ds)
    (hr : ∀ credential, i.credential = some credential → credential ≠ "" →
      ∃ found, g.registry.resolve (.of i.endpoint i.method) credential s.holdings = .ok found) :
    match i.verdict g.catalog ds with
    | .error e => (g.invoke i s).1 = .error e ∧ (g.invoke i s).2.holdings = s.holdings
    | .ok d => ∃ b : Batch, b.rows = i.body.rows ∧
        (g.invoke i s).1 = (Engine.execute ⟨d.sqlTemplate⟩ b s.holdings.store s.journal).1.mapError
          .executionFailed ∧
        (g.invoke i s).2.holdings = { s.holdings with
          store := (Engine.execute ⟨d.sqlTemplate⟩ b s.holdings.store s.journal).2.1 } := by
  obtain ⟨c, hstate, hheld, hinvoke⟩ := invoke_of_run g i s
  have hresolve := resolve_eq hds hr
  rw [← hheld] at hresolve
  have hrefused : ∀ e, g.resolve i.endpoint i.method i.credential c.holdings = .error e →
      (g.invoke i s).1 = .error e ∧ (g.invoke i s).2.holdings = s.holdings := by
    intro e he
    obtain ⟨h₁, h₂⟩ := hinvoke _ _ (run_of_refused he)
    exact ⟨h₁, h₂.trans hheld⟩
  unfold Invocation.verdict
  cases hc : i.credential.filter (· ≠ "") with
  | none => exact hrefused _ (by rw [hresolve, hc])
  | some credential =>
    simp only [hc] at hresolve ⊢
    cases hd : lowest? ds ⟨i.endpoint, Text.upperAscii i.method⟩ credential with
    | none => exact hrefused _ (by rw [hresolve, hd])
    | some d =>
      simp only [hd] at hresolve ⊢
      have hrows := batchOf_eq g i.endpoint i.body
      cases hf : i.body.fault? g.catalog i.endpoint with
      | some f =>
        simp only [hf] at hrows ⊢
        obtain ⟨c', hrun, hh⟩ := run_of_unfit hstate hresolve hrows
        obtain ⟨h₁, h₂⟩ := hinvoke _ _ hrun
        exact ⟨h₁, h₂.trans (hh.trans hheld)⟩
      | none =>
        simp only [hf] at hrows ⊢
        obtain ⟨b, hb, hbatch⟩ := hrows
        obtain ⟨c', hrun, hh⟩ := run_of_fit hstate hresolve hbatch s.journal
        obtain ⟨h₁, h₂⟩ := hinvoke _ _ hrun
        rw [hheld] at h₁ hh
        exact ⟨b, hb, h₁, h₂.trans hh⟩

theorem invoke_eq_verdict_older :
    let text (name : String) : Sql.Column :=
      { name, typed := true, affinity := .text, notNull := true, default := .null }
    let row (id : Int) (texts : List String) : Sql.TableRow := ⟨id, .null :: texts.map .ofString⟩
    let t : Sql.Table := {
      name := "dynamic_endpoints"
      columns := [{ text "id" with affinity := .integer }, text "endpoint_name", text "method",
        text "credential", text "sql_template", text "created_at"]
      idColumn := some 0
      rows := [
        row 1 ["Items", "POST", "k1", "INSERT INTO t VALUES ($name$)", "2024-01-01 00:00:00"],
        row 2 ["Items", "POST", "k1", "DELETE FROM t", "2024-01-01 00:00:01"]] }
    let g : Gateway := ⟨.inStore, .ofConfig [("items", ["Name"])]⟩
    let s : Running := {
      holdings := { store := { path := "gate.db", medium := .database [t] } }
      journal := { threshold := .fatal } }
    let i : Invocation := ⟨"Items", "post", some "k1", .batch [[("NAME", .str "x")], [("name", .null)]]⟩
    ∃ b : Batch, b.rows = [[("NAME", .str "x")], [("name", .null)]] ∧
      (g.invoke i s).1 = (Engine.execute ⟨"INSERT INTO t VALUES ($name$)"⟩ b s.holdings.store
        s.journal).1.mapError .executionFailed ∧
      (g.invoke i s).2.holdings = { s.holdings with
        store := (Engine.execute ⟨"INSERT INTO t VALUES ($name$)"⟩ b s.holdings.store
          s.journal).2.1 } := by
  intro text row t g s i
  have hfind : Sql.Database.find? [t] EndpointTable.name = some t :=
    List.find?_cons_of_pos (by decide +kernel)
  have hlaid : EndpointTable.Laid t := ⟨by decide +kernel, by decide +kernel⟩
  have hds : g.registry.Holds s.holdings (EndpointTable.held t) := .inStore rfl hfind hlaid
  have hfirst : t.rows.find? (EndpointTable.meets (.of "Items" "post") "k1") = t.rows.head? := by
    decide +kernel
  have hr : ∀ credential, i.credential = some credential → credential ≠ "" →
      ∃ found, g.registry.resolve (.of "Items" "post") credential s.holdings = .ok found := by
    intro credential hc _
    obtain rfl := Option.some.inj hc
    have hx := Store.resolve_eq (s := s.holdings.store) rfl hfind hlaid (.of "Items" "post") "k1"
    rw [hfirst] at hx
    exact ⟨some ⟨1, "Items", "POST", "k1", "INSERT INTO t VALUES ($name$)", "2024-01-01 00:00:00"⟩,
      hx.trans rfl⟩
  have hv : (i.verdict g.catalog (EndpointTable.held t)).toOption =
      some ⟨1, "Items", "POST", "k1", "INSERT INTO t VALUES ($name$)", "2024-01-01 00:00:00"⟩ := by
    decide +kernel
  have h := invoke_eq_verdict g s _ i hds hr
  rw [toOption_eq_some hv] at h
  exact h

end Gateway

end EndpointGate
