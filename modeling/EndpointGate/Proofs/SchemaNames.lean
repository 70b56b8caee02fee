import EndpointGate.Proofs.InvocationPipeline
import EndpointGate.Proofs.ReadObjects
import EndpointGate.Server
import Mathlib.Data.List.Induction
import Mathlib.Data.List.Pairwise

/-! Which schema stands for an endpoint. The catalog keeps one for all names that are alike in lower case:
that of the greatest of them. Each entry of a configuration is kept exactly if no two are alike. -/

namespace EndpointGate

namespace Fields

variable {α : Type}

theorem mem_keys_insert {fields : Fields α} {key other : String} {value : α} :
    other ∈ keys (insert key value fields) ↔ key = other ∨ other ∈ keys fields := by
  simp only [mem_keys_iff, get?_insert]
  by_cases h : key = other <;> simp [h]

theorem length_insert {fields : Fields α} (h : fields.Ordered) (key : String) (value : α) :
    (insert key value fields).length =
      if key ∈ keys fields then fields.length else fields.length + 1 := by
  induction fields with
  | nil => rfl
  | cons p rest ih =>
    obtain ⟨hfirst, hrest⟩ := List.pairwise_cons.mp h
    have hkeys : key ∈ keys (p :: rest) ↔ key = p.1 ∨ key ∈ keys rest := List.mem_cons
    rw [insert]
    split_ifs with hsame hmem hbefore hmem hmem
    · rfl
    · exact absurd (hkeys.mpr (.inl hsame)) hmem
    · obtain hmem | hmem := hkeys.mp hmem
      · exact absurd hmem hsame
      · obtain ⟨q, hq, hkey⟩ := List.mem_map.mp hmem
        exact absurd (String.lt_trans hbefore (hfirst q hq)) (hkey ▸ String.lt_irrefl _)
    · rfl
    · rw [List.length_cons, ih hrest, if_pos ((hkeys.mp hmem).resolve_left hsame), List.length_cons]
    · rw [List.length_cons, ih hrest, if_neg fun h => hmem (hkeys.mpr (.inr h)), List.length_cons]

end Fields

namespace Catalog

def Alike (a b : String) : Prop := Text.lowercase a = Text.lowercase b

instance (a b : String) : Decidable (Alike a b) := inferInstanceAs (Decidable (_ = _))

def Apart (schemas : Fields (List String)) : Prop := schemas.Pairwise fun p q => ¬Alike p.1 q.1

instance (schemas : Fields (List String)) : Decidable (Apart schemas) :=
  inferInstanceAs (Decidable (List.Pairwise _ _))

variable {schemas : Fields (List String)}

theorem ofConfig_concat (schemas : Fields (List String)) (p : String × List String) :
    ofConfig (schemas ++ [p]) = (ofConfig schemas).insert p.1 (.ofFields p.2) := by
  rw [ofConfig, List.foldl_append]
  rfl

theorem get?_ofConfig_concat (schemas : Fields (List String)) (p : String × List String)
    (name : String) : (ofConfig (schemas ++ [p])).get? name =
      if Alike p.1 name then some (.ofFields p.2) else (ofConfig schemas).get? name := by
  rw [ofConfig_concat]
  exact Fields.get?_insert _ _ _ _

theorem get?_ofConfig (h : schemas.Ordered) {name : String} (hname : ∃ p ∈ schemas, Alike p.1 name) :
    ∃ q ∈ schemas, Alike q.1 name ∧ (∀ r ∈ schemas, Alike r.1 name → r.1 ≤ q.1) ∧
      (ofConfig schemas).get? name = some (.ofFields q.2) := by
  induction schemas using List.reverseRecOn with
  | nil => simp at hname
  | append_singleton schemas p ih =>
    obtain ⟨hinit, -, hlast⟩ := List.pairwise_append.mp h
    rw [get?_ofConfig_concat]
    by_cases hp : Alike p.1 name
    · refine ⟨p, by simp, hp, fun r hr _ => ?_, if_pos hp⟩
      obtain hr | hr := List.mem_append.mp hr
      · exact String.not_lt.mp (String.lt_asymm (hlast r hr p (by simp)))
      · obtain rfl := List.mem_singleton.mp hr
        exact String.le_refl _
    · have hearlier : ∀ r ∈ schemas ++ [p], Alike r.1 name → r ∈ schemas := by
        intro r hr hsame
        obtain hr | hr := List.mem_append.mp hr
        · exact hr
        · exact absurd (List.mem_singleton.mp hr ▸ hsame) hp
      obtain ⟨r, hr, hsame⟩ := hname
      obtain ⟨q, hq, hqsame, hgreatest, hget⟩ := ih hinit ⟨r, hearlier r hr hsame, hsame⟩
      refine ⟨q, List.mem_append_left _ hq, hqsame, fun r hr hsame => ?_, ?_⟩
      · exact hgreatest r (hearlier r hr hsame) hsame
      · rw [if_neg hp, hget]

theorem ordered_ofConfig (schemas : Fields (List String)) : (ofConfig schemas).descriptors.Ordered := by
  induction schemas using List.reverseRecOn with
  | nil => exact List.Pairwise.nil
  | append_singleton schemas p ih =>
    rw [ofConfig_concat]
    exact Fields.ordered_insert ih _ _

theorem mem_keys_ofConfig {schemas : Fields (List String)} {name : String} :
    Text.lowercase name ∈ (ofConfig schemas).descriptors.keys ↔ ∃ p ∈ schemas, Alike p.1 name := by
  induction schemas using List.reverseRecOn with
  | nil => simp [ofConfig, empty, Fields.keys]
  | append_singleton schemas p ih =>
    rw [ofConfig_concat, Catalog.insert, Fields.mem_keys_insert, ih]
    constructor
    · rintro (h | ⟨q, hq, h⟩)
      · exact ⟨p, by simp, h⟩
      · exact ⟨q, List.mem_append_left _ hq, h⟩
    · rintro ⟨q, hq, h⟩
      obtain hq | hq := List.mem_append.mp hq
      · exact .inr ⟨q, hq, h⟩
      · exact .inl (List.mem_singleton.mp hq ▸ h)

theorem size_ofConfig_concat (schemas : Fields (List String)) (p : String × List String) :
    (ofConfig (schemas ++ [p])).size =
      if ∃ q ∈ schemas, Alike q.1 p.1 then (ofConfig schemas).size else (ofConfig schemas).size + 1 := by
  rw [ofConfig_concat, size, Catalog.insert, Fields.length_insert (ordered_ofConfig schemas)]
  simp only [mem_keys_ofConfig]
  rfl

theorem size_ofConfig_le (schemas : Fields (List String)) :
    (ofConfig schemas).size ≤ schemas.length := by
  induction schemas using List.reverseRecOn with
  | nil => exact Nat.zero_le _
  | append_singleton schemas p ih =>
    rw [size_ofConfig_concat, List.length_append, List.length_singleton]
    split_ifs <;> omega

theorem size_ofConfig_iff : (ofConfig schemas).size = schemas.length ↔ Apart schemas := by
  induction schemas using List.reverseRecOn with
  | nil => exact ⟨fun _ => List.Pairwise.nil, fun _ => rfl⟩
  | append_singleton schemas p ih =>
    have hle := size_ofConfig_le schemas
    have happart : Apart (schemas ++ [p]) ↔ Apart schemas ∧ ∀ q ∈ schemas, ¬Alike q.1 p.1 := by
      simp [Apart, List.pairwise_append]
    rw [size_ofConfig_concat, List.length_append, List.length_singleton, happart, ← ih]
    split_ifs with hsame
    · obtain ⟨q, hq, hsame⟩ := hsame
      exact ⟨fun h => by omega, fun h => absurd hsame (h.2 q hq)⟩
    · refine ⟨fun h => ⟨by omega, fun q hq hq' => hsame ⟨q, hq, hq'⟩⟩, fun h => by omega⟩

theorem eq_of_apart (h : Apart schemas) {p q : String × List String} (hp : p ∈ schemas)
    (hq : q ∈ schemas) (hsame : Alike p.1 q.1) : p = q := by
  have : Std.Symm fun p q : String × List String => ¬Alike p.1 q.1 :=
    ⟨fun p q h hsame => h hsame.symm⟩
  by_contra hne
  exact h.forall hp hq hne hsame

end Catalog

namespace Gateway

variable {g : Gateway}

theorem validated_iff (endpoint : String) (d : Descriptor) (b : Batch) :
    (∃ b', ((validate endpoint (some d) b).mapError GatewayError.validationRejected).map
        (fun _ => b) = .ok b') ↔ ∀ row ∈ b.rows, ∀ f ∈ d.fields, Carries row f := by
  rw [← Descriptor.checkRows_ok_iff d 0, validate]
  cases d.checkRows 0 b.rows with
  | error e => simp [Except.mapError, Except.map]
  | ok u => simp [Except.mapError, Except.map]

theorem batchOf_ok_iff {endpoint : String} {d : Descriptor}
    (hd : g.catalog.get? endpoint = some d) (body : InvocationBody) :
    (∃ b, g.batchOf endpoint body = .ok b) ↔
      body.rows ≠ [] ∧ ∀ row ∈ body.rows, ∀ f ∈ d.fields, Carries row f := by
  cases body with
  | single row =>
    rw [batchOf, hd]
    simp only [validated_iff, InvocationBody.rows, Batch.single]
    simp
  | batch rows =>
    by_cases hrows : rows = []
    · simp [batchOf, Batch.ofRows?, InvocationBody.rows, hrows]
    · rw [batchOf, Batch.ofRows?, dif_neg hrows, hd]
      simp only [validated_iff, InvocationBody.rows]
      simp [hrows]

theorem batchOf_of_invoke {i : Invocation} {s : Running} {o : BatchOutcome}
    (h : (g.invoke i s).1 = .ok o) : ∃ b, g.batchOf i.endpoint i.body = .ok b := by
  obtain ⟨c, hstate, -, hinvoke⟩ := invoke_of_run g i s
  cases hd : g.resolve i.endpoint i.method i.credential c.holdings with
  | error e =>
    obtain ⟨hresult, -⟩ := hinvoke _ _ (run_of_refused hd)
    cases hresult.symm.trans h
  | ok d =>
    cases hb : g.batchOf i.endpoint i.body with
    | ok b => exact ⟨b, rfl⟩
    | error e =>
      obtain ⟨c', hrun, -⟩ := run_of_unfit hstate hd hb
      obtain ⟨hresult, -⟩ := hinvoke _ _ hrun
      cases hresult.symm.trans h

end Gateway

namespace Server

open Catalog (Alike Apart)

/-- The schemas of an accepted configuration. For each name the entry of the greatest name alike decides
which rows are accepted. Every entry is kept for its own name, and as many as there are, exactly if no two
names are alike; then the rows of each invocation that succeeds have the fields configured under its
name. -/
theorem schemas_of_load {d : Disk} {path : String} {c : Config} (h : Config.load d path = .ok c) :
    let g := gatewayOf c
    (∀ name, (∃ p ∈ c.schemas, Alike p.1 name) → ∃ q ∈ c.schemas, Alike q.1 name ∧
      (∀ r ∈ c.schemas, Alike r.1 name → r.1 ≤ q.1) ∧
      g.catalog.get? name = some (.ofFields q.2) ∧
      ∀ body, (∃ b, g.batchOf name body = .ok b) ↔
        body.rows ≠ [] ∧ ∀ row ∈ body.rows, ∀ f ∈ q.2, Carries row f) ∧
    ((∀ p ∈ c.schemas, g.catalog.get? p.1 = some (.ofFields p.2)) ∧
      g.catalog.size = c.schemas.length ↔ Apart c.schemas) ∧
    (Apart c.schemas → ∀ p ∈ c.schemas, ∀ i s o, i.endpoint = p.1 → (g.invoke i s).1 = .ok o →
      ∀ row ∈ i.body.rows, ∀ f ∈ p.2, Carries row f) := by
  intro g
  obtain ⟨⟨text, hparse⟩, -⟩ := Config.parse_of_load h
  have hordered := Config.ordered_of_parse hparse
  have hkept : Apart c.schemas → ∀ p ∈ c.schemas, g.catalog.get? p.1 = some (.ofFields p.2) := by
    intro happart p hp
    obtain ⟨q, hq, hsame, -, hget⟩ := Catalog.get?_ofConfig hordered ⟨p, hp, rfl⟩
    obtain rfl := Catalog.eq_of_apart happart hq hp hsame
    exact hget
  have haccepted : ∀ name fields, g.catalog.get? name = some (.ofFields fields) → ∀ body,
      (∃ b, g.batchOf name body = .ok b) ↔
        body.rows ≠ [] ∧ ∀ row ∈ body.rows, ∀ f ∈ fields, Carries row f := by
    intro name fields hget body
    rw [Gateway.batchOf_ok_iff hget]
    simp only [Descriptor.carries_ofFields_iff]
  refine ⟨fun name hname => ?_, ?_, fun happart p hp i s o hi ho => ?_⟩
  · obtain ⟨q, hq, hsame, hgreatest, hget⟩ := Catalog.get?_ofConfig hordered hname
    exact ⟨q, hq, hsame, hgreatest, hget, haccepted name q.2 hget⟩
  · rw [← Catalog.size_ofConfig_iff]
    exact ⟨fun h => h.2, fun h => ⟨hkept (Catalog.size_ofConfig_iff.mp h), h⟩⟩
  · have hbatch := Gateway.batchOf_of_invoke ho
    rw [hi, haccepted p.1 p.2 (hkept happart p hp)] at hbatch
    exact hbatch.2

theorem schemas_of_load_apart :
    let text := "\x7b\"database_path\": \"gate.db\", \"schemas\": " ++
      "\x7b\"items\": [\"Name\", \"NAME\"], \"Parts\": [\"No\"]\x7d\x7d"
    let d : Disk := { nodes := [(["sqlgate.json"], .file (.text text))] }
    let c : Config := {
      databasePath := "gate.db", schemas := [("Parts", ["No"]), ("items", ["Name", "NAME"])] }
    Config.load d "sqlgate.json" = .ok c ∧ Apart c.schemas ∧ (gatewayOf c).catalog.size = 2 ∧
      (gatewayOf c).catalog.get? "Parts" = some (.ofFields ["No"]) := by
  intro text d c
  have hload : Config.load d "sqlgate.json" = .ok c :=
    toOption_eq_some (by decide +kernel)
  have happart : Apart c.schemas := by decide +kernel
  obtain ⟨-, hkept, -⟩ := schemas_of_load hload
  obtain ⟨hget, hsize⟩ := hkept.mpr happart
  exact ⟨hload, happart, hsize, hget ("Parts", ["No"]) (by simp [c])⟩

/-- Of two names that are alike the lesser is not kept, and rows without its field are accepted. -/
theorem lesser_name_dropped :
    let text := "\x7b\"database_path\": \"gate.db\", \"schemas\": " ++
      "\x7b\"A\": [\"x\"], \"a\": [\"y\"]\x7d\x7d"
    let d : Disk := { nodes := [(["sqlgate.json"], .file (.text text))] }
    let c : Config := { databasePath := "gate.db", schemas := [("A", ["x"]), ("a", ["y"])] }
    let row : Row := [("y", .int 1)]
    (Config.load d "sqlgate.json").toOption = some c ∧
      (gatewayOf c).catalog.get? "A" = some (.ofFields ["y"]) ∧
      (gatewayOf c).catalog.size = 1 ∧ c.schemas.length = 2 ∧
      ((gatewayOf c).batchOf "A" (.batch [row])).isOk = true ∧ ¬Carries row "x" := by
  decide +kernel

end Server

end EndpointGate
