import EndpointGate.Proofs.InvocationPipeline
import Mathlib.Data.List.Forall2

/-! Which fields of a row matter. The check of rows asks that certain fields be there, under any spelling,
and binding reads the fields that placeholders name. Two invocations that pass the check and agree in those
are run alike; to add others takes no row out of the check. -/

namespace EndpointGate

def AgreeOn (names : List String) (row row' : Row) : Prop :=
  ∀ name ∈ names, row.get? name = row'.get? name

def Row.Within (row wide : Row) : Prop := ∀ name ∈ row.keys, wide.get? name = row.get? name

def Row.AddsNone (names : List String) (row wide : Row) : Prop :=
  ∀ name ∈ wide.keys, name ∉ row.keys → name ∉ names

instance (names : List String) (row row' : Row) : Decidable (AgreeOn names row row') :=
  inferInstanceAs (Decidable (∀ name ∈ names, _))

instance (row wide : Row) : Decidable (row.Within wide) :=
  inferInstanceAs (Decidable (∀ name ∈ row.keys, _))

instance (names : List String) (row wide : Row) : Decidable (row.AddsNone names wide) :=
  inferInstanceAs (Decidable (∀ name ∈ wide.keys, _))

section Rows

variable {row wide : Row} {names : List String}

theorem Row.Within.agreeOn (h : row.Within wide) (hnew : row.AddsNone names wide) :
    AgreeOn names row wide := by
  intro name hname
  by_cases hold : name ∈ row.keys
  · exact (h name hold).symm
  · have hnot : name ∉ wide.keys := fun hadded => hnew name hadded hold hname
    rw [(Fields.get?_eq_none_iff name row).mpr hold, (Fields.get?_eq_none_iff name wide).mpr hnot]

theorem Carries.within {name : String} (h : Carries row name) (hw : row.Within wide) :
    Carries wide name := by
  obtain ⟨k, hk, hspelling⟩ := h
  obtain ⟨v, hv⟩ := (Fields.mem_keys_iff k row).mp hk
  exact ⟨k, (Fields.mem_keys_iff k wide).mpr ⟨v, (hw k hk).trans hv⟩, hspelling⟩

end Rows

section Running

variable {plan : Plan} {rows rows' : List Row} {t : Template} {b b' : Batch}

theorem Plan.bind_congr {row row' : Row} (h : AgreeOn plan.names row row') :
    plan.bind row = plan.bind row' := by
  have hvalues : plan.names.map (valueFor row) = plan.names.map (valueFor row') := by
    apply List.map_congr_left
    intro name hname
    rw [valueFor, valueFor, h name hname]
  rw [bind, bind, hvalues]

theorem Engine.applyRows_congr (h : List.Forall₂ (AgreeOn plan.names) rows rows') (n : Nat)
    (c : Sql.Connection) : applyRows plan n c rows = applyRows plan n c rows' := by
  -- rows that are bound alike leave one connection to those behind them
  induction h generalizing n c with
  | nil => rfl
  | cons hrow _ ih => simp only [applyRows, Plan.bind_congr hrow, ih]

theorem Engine.execute_congr (h : List.Forall₂ (AgreeOn (Plan.names t.plan)) b.rows b'.rows)
    (s : Store) (j : Journal) : execute t b s j = execute t b' s j := by
  have hsize : b.size = b'.size := h.length_eq
  simp only [execute, applyRows_congr h, hsize]

end Running

namespace InvocationBody

def Within : InvocationBody → InvocationBody → Prop
  | .single row, .single wide => row.Within wide
  | .batch rows, .batch wides => List.Forall₂ Row.Within rows wides
  | _, _ => False

variable {body wide : InvocationBody}

theorem Within.rows (h : body.Within wide) : List.Forall₂ Row.Within body.rows wide.rows := by
  cases body with
  | single row =>
    cases wide with
    | single row' => exact .cons h .nil
    | batch rows' => cases h
  | batch rows =>
    cases wide with
    | single row' => cases h
    | batch rows' => exact h

def HasRows (fields : Row) : Prop := ∃ items, fields.get? "rows" = some (.arr items)

theorem ofJson_of_not_hasRows {fields : Row} (h : ¬HasRows fields) :
    ofJson (.obj fields) = .ok (.single fields) := by
  simp only [ofJson]
  split
  · rename_i items hitems
    exact absurd ⟨items, hitems⟩ h
  · rfl

theorem ofJson_within {fields wider : Row} (h : fields.Within wider)
    (hform : HasRows wider → HasRows fields) (hbody : ofJson (.obj fields) = .ok body) :
    ofJson (.obj wider) = .ok body ∨
      body = .single fields ∧ ofJson (.obj wider) = .ok (.single wider) := by
  by_cases hrows : HasRows fields
  · obtain ⟨items, hitems⟩ := hrows
    have hmem : "rows" ∈ fields.keys := (Fields.mem_keys_iff "rows" fields).mpr ⟨_, hitems⟩
    refine .inl (.trans ?_ hbody)
    simp only [ofJson, h "rows" hmem, hitems]
  · rw [ofJson_of_not_hasRows hrows] at hbody
    exact .inr ⟨(Except.ok.inj hbody).symm, ofJson_of_not_hasRows (mt hform hrows)⟩

end InvocationBody

namespace Descriptor

theorem firstLacking?_eq_none_iff (d : Descriptor) (rows : List Row) :
    d.firstLacking? rows = none ↔ ∀ row ∈ rows, ∀ f ∈ d.fields, Carries row f := by
  rw [← checkRows_ok_iff d 0, checkRows_eq_firstLacking]
  cases d.firstLacking? rows <;> simp

theorem firstLacking?_within {d : Descriptor} {rows wides : List Row}
    (h : List.Forall₂ Row.Within rows wides) (hnone : d.firstLacking? rows = none) :
    d.firstLacking? wides = none := by
  rw [firstLacking?_eq_none_iff] at hnone ⊢
  induction h with
  | nil => exact hnone
  | cons hrow _ ih =>
    obtain ⟨hfirst, hrest⟩ := List.forall_mem_cons.mp hnone
    exact List.forall_mem_cons.mpr ⟨fun f hf => (hfirst f hf).within hrow, ih hrest⟩

end Descriptor

theorem InvocationBody.fault?_within {catalog : Catalog} {endpoint : String}
    {body wide : InvocationBody} (h : body.Within wide) (hnone : body.fault? catalog endpoint = none) :
    wide.fault? catalog endpoint = none := by
  have hchecked : ∀ d : Descriptor,
      (d.firstLacking? body.rows).map (fun p => ValidationFailure.missingFields p.1 p.2) = none →
      (d.firstLacking? wide.rows).map (fun p => ValidationFailure.missingFields p.1 p.2) = none := by
    intro d hd
    rw [Option.map_eq_none_iff] at hd ⊢
    exact Descriptor.firstLacking?_within h.rows hd
  unfold fault? at hnone ⊢
  cases body with
  | single row =>
    cases wide with
    | batch wides => cases h
    | single row' =>
      cases hd : catalog.descriptors.get? (Text.lowercase endpoint) with
      | none => rfl
      | some d =>
        rw [hd] at hnone
        exact hchecked d hnone
  | batch rows =>
    cases wide with
    | single row' => cases h
    | batch wides =>
      cases h with
      -- a batch without rows does not pass
      | nil => cases hnone
      | cons hrow hrest =>
        cases hd : catalog.descriptors.get? (Text.lowercase endpoint) with
        | none =>
          rw [hd] at hnone
          cases hnone
        | some d =>
          rw [hd] at hnone
          exact hchecked d hnone

namespace Gateway

def Accepts (g : Gateway) (endpoint : String) (body : InvocationBody) : Prop :=
  ∃ b : Batch, g.batchOf endpoint body = .ok b

variable {g : Gateway} {i : Invocation} {endpoint : String} {body wide : InvocationBody}

theorem accepts_iff : g.Accepts endpoint body ↔ body.fault? g.catalog endpoint = none := by
  have hrows := batchOf_eq g endpoint body
  cases hf : body.fault? g.catalog endpoint with
  | none =>
    rw [hf] at hrows
    obtain ⟨b, -, hb⟩ := hrows
    simp [Accepts, hb]
  | some f =>
    rw [hf] at hrows
    simp [Accepts, hrows]

theorem Accepts.within (h : g.Accepts endpoint body) (hw : body.Within wide) :
    g.Accepts endpoint wide :=
  accepts_iff.mpr (InvocationBody.fault?_within hw (accepts_iff.mp h))

theorem runInvocation_congr {c : Call} (hok : g.Accepts i.endpoint i.body)
    (hok' : g.Accepts i.endpoint body)
    (hrows : ∀ d, g.resolve i.endpoint i.method i.credential c.holdings = .ok d →
      List.Forall₂ (AgreeOn (Plan.names (Template.plan ⟨d.sqlTemplate⟩))) i.body.rows body.rows) :
    (g.runInvocation i).run c = (g.runInvocation { i with body }).run c := by
  obtain ⟨b, hb⟩ := hok
  obtain ⟨b', hb'⟩ := hok'
  -- up to the look-up the body plays no part
  have hget : (get : Handling Call).run c = (.ok c, c) := rfl
  rw [runInvocation, runInvocation, run_bind_ok hget, run_bind_ok hget]
  cases hd : g.resolve i.endpoint i.method i.credential c.holdings with
  | error e => rw [run_bind_error (run_ofExcept _ c), run_bind_error (run_ofExcept _ c)]
  | ok d =>
    have hagree := hrows d hd
    rw [← rows_of_batchOf hb, ← rows_of_batchOf hb'] at hagree
    have hexecute : execute ⟨d.sqlTemplate⟩ b = execute ⟨d.sqlTemplate⟩ b' := by
      funext c'
      simp only [execute, Engine.execute_congr hagree]
    simp only [hb, hb', Handling.ofExcept, pure_bind, hexecute]

theorem invoke_congr {s : Running} (hok : g.Accepts i.endpoint i.body) (hok' : g.Accepts i.endpoint body)
    (hrows : ∀ d, g.resolve i.endpoint i.method i.credential s.holdings = .ok d →
      List.Forall₂ (AgreeOn (Plan.names (Template.plan ⟨d.sqlTemplate⟩))) i.body.rows body.rows) :
    g.invoke { i with body } s = g.invoke i s := by
  have hhandle : handle i.endpoint i.method (g.runInvocation { i with body }) s =
      handle i.endpoint i.method (g.runInvocation i) s :=
    (runInvocation_congr hok hok' hrows).symm
  simp only [invoke, hhandle]

/-- Of two invocations that differ in their bodies, that both pass the check, and whose rows agree in the
fields that the template of their endpoint names, either gives what the other gives and leaves what it
leaves. So does one whose rows are given fields that the template does not name, and it passes the check;
these may come as members of the document that is sent, unless they make a batch of one row. -/
theorem invoke_by_named_fields (g : Gateway) (i : Invocation) (s : Running)
    (hok : g.Accepts i.endpoint i.body) :
    (∀ body, g.Accepts i.endpoint body →
      (∀ d, g.resolve i.endpoint i.method i.credential s.holdings = .ok d →
        List.Forall₂ (AgreeOn (Plan.names (Template.plan ⟨d.sqlTemplate⟩))) i.body.rows body.rows) →
      g.invoke { i with body } s = g.invoke i s) ∧
    (∀ body, i.body.Within body →
      (∀ d, g.resolve i.endpoint i.method i.credential s.holdings = .ok d →
        List.Forall₂ (Row.AddsNone (Plan.names (Template.plan ⟨d.sqlTemplate⟩))) i.body.rows body.rows) →
      g.Accepts i.endpoint body ∧ g.invoke { i with body } s = g.invoke i s) ∧
    (∀ fields wider : Row, InvocationBody.ofJson (.obj fields) = .ok i.body → fields.Within wider →
      (InvocationBody.HasRows wider → InvocationBody.HasRows fields) →
      (∀ d, g.resolve i.endpoint i.method i.credential s.holdings = .ok d →
        fields.AddsNone (Plan.names (Template.plan ⟨d.sqlTemplate⟩)) wider) →
      ∃ body, InvocationBody.ofJson (.obj wider) = .ok body ∧ g.Accepts i.endpoint body ∧
        g.invoke { i with body } s = g.invoke i s) := by
  have hwiden : ∀ body, i.body.Within body →
      (∀ d, g.resolve i.endpoint i.method i.credential s.holdings = .ok d →
        List.Forall₂ (Row.AddsNone (Plan.names (Template.plan ⟨d.sqlTemplate⟩))) i.body.rows body.rows) →
      g.Accepts i.endpoint body ∧ g.invoke { i with body } s = g.invoke i s := by
    intro body hwithin hadds
    have hok' := hok.within hwithin
    refine ⟨hok', invoke_congr hok hok' fun d hd => ?_⟩
    have hkept := hwithin.rows
    have hnew := hadds d hd
    rw [List.forall₂_iff_get] at hkept hnew ⊢
    exact ⟨hkept.1, fun n h₁ h₂ => (hkept.2 n h₁ h₂).agreeOn (hnew.2 n h₁ h₂)⟩
  refine ⟨fun body hok' hrows => invoke_congr hok hok' hrows, hwiden, ?_⟩
  intro fields wider hbody hwithin hform hadds
  rcases InvocationBody.ofJson_within hwithin hform hbody with hsame | ⟨hsingle, hwider⟩
  · exact ⟨i.body, hsame, hok, rfl⟩
  · have hrow : i.body.Within (.single wider) := by
      rw [hsingle]
      exact hwithin
    refine ⟨.single wider, hwider, hwiden (.single wider) hrow fun d hd => ?_⟩
    rw [hsingle]
    exact .cons (hadds d hd) .nil

theorem invoke_by_named_fields_spelled :
    let g : Gateway := ⟨.inMemory, .ofConfig [("Items", ["name"])]⟩
    let d : Definition := ⟨1, "items", "POST", "k1", "INSERT INTO t VALUES ($name$)", "today"⟩
    let s : Running := { holdings := ⟨⟨"gate.db", .foreign, none⟩, [d]⟩, journal := { threshold := .fatal } }
    let rows : List Row := [[("name", .str "x")], [("Name", .str "y")]]
    let rows' : List Row := [[("NAME", .null), ("name", .str "x")], [("nAME", .int 3)]]
    let wider : List Row := [[("name", .str "x"), ("note", .null)], [("Name", .str "y"), ("id", .int 3)]]
    let i (rows : List Row) : Invocation := ⟨"items", "post", some "k1", .batch rows⟩
    rows ≠ rows' ∧ g.invoke (i rows') s = g.invoke (i rows) s ∧
      g.Accepts "items" (.batch wider) ∧ g.invoke (i wider) s = g.invoke (i rows) s ∧
      ∃ body, InvocationBody.ofJson (.obj [("note", .null), ("rows", .arr (rows.map .obj))]) = .ok body ∧
        g.Accepts "items" body ∧ g.invoke { i rows with body } s = g.invoke (i rows) s := by
  intro g d s rows rows' wider i
  have hok : g.Accepts "items" (.batch rows) := accepts_iff.mpr (by decide +kernel)
  have hok' : g.Accepts "items" (.batch rows') := accepts_iff.mpr (by decide +kernel)
  have hd : (g.resolve "items" "post" (some "k1") s.holdings).toOption = some d := by decide +kernel
  have hnames : Plan.names (Template.plan ⟨d.sqlTemplate⟩) = ["name"] := by decide +kernel
  have hresolved : ∀ {P : List String → Prop}, P ["name"] →
      ∀ d', g.resolve "items" "post" (some "k1") s.holdings = .ok d' →
        P (Plan.names (Template.plan ⟨d'.sqlTemplate⟩)) := by
    intro P h d' hd'
    rw [hd'] at hd
    obtain rfl := Option.some.inj hd
    rwa [hnames]
  obtain ⟨hagree, hwiden, hdocument⟩ := invoke_by_named_fields g (i rows) s hok
  obtain ⟨hwider, hsame⟩ := hwiden (.batch wider)
    (.cons (by decide) (.cons (by decide) .nil))
    (hresolved (P := fun names => List.Forall₂ (Row.AddsNone names) rows wider)
      (.cons (by decide) (.cons (by decide) .nil)))
  refine ⟨by decide, hagree (.batch rows') hok' (hresolved
    (P := fun names => List.Forall₂ (AgreeOn names) rows rows')
      (.cons (by decide) (.cons (by decide) .nil))), hwider, hsame, ?_⟩
  exact hdocument [("rows", .arr (rows.map .obj))] _ rfl (by decide) (fun _ => ⟨_, rfl⟩)
    (hresolved (P := fun names => Row.AddsNone names _ _) (by decide))

end Gateway

end EndpointGate
