import EndpointGate.Schema.Validation

/-! What the check of rows promises, and what binding makes of it. The check compares names without
regard to case, binding looks for a name as it is spelled: a row that passed the check has every field
under some spelling, and keeps its value exactly where the spelling is the template's. -/

namespace EndpointGate

def Carries (row : Row) (name : String) : Prop :=
  ∃ k ∈ row.keys, Text.lowercase k = Text.lowercase name

instance (row : Row) (name : String) : Decidable (Carries row name) :=
  inferInstanceAs (Decidable (∃ k ∈ row.keys, _))

namespace Fields

variable {α : Type}

theorem mem_keys_iff (key : String) (fields : Fields α) :
    key ∈ keys fields ↔ ∃ v, get? key fields = some v := by
  induction fields with
  | nil => simp [keys, get?]
  | cons p rest ih =>
    obtain ⟨k, v⟩ := p
    by_cases hk : k = key
    · simp [keys, get?, hk]
    · have hk' : key ≠ k := Ne.symm hk
      simpa [keys, get?, hk, hk'] using ih

theorem get?_eq_none_iff (key : String) (fields : Fields α) :
    get? key fields = none ↔ key ∉ keys fields := by
  rw [mem_keys_iff, not_exists, Option.eq_none_iff_forall_ne_some]

end Fields

namespace Descriptor

theorem mem_missingFrom_iff (d : Descriptor) (row : Row) (f : String) :
    f ∈ d.missingFrom row ↔ f ∈ d.fields ∧ ¬Carries row f := by
  simp only [missingFrom, folded, List.mem_map, List.mem_filter, Carries, Bool.not_eq_true',
    List.contains_eq_mem, decide_eq_false_iff_not, Prod.exists]
  constructor
  · rintro ⟨_, _, ⟨⟨g, hg, he⟩, hp⟩, rfl⟩
    obtain ⟨rfl, rfl⟩ := Prod.mk.inj he
    exact ⟨hg, hp⟩
  · rintro ⟨hf, hp⟩
    exact ⟨Text.lowercase f, f, ⟨⟨f, hf, rfl⟩, hp⟩, rfl⟩

theorem missingFrom_eq_nil_iff (d : Descriptor) (row : Row) :
    d.missingFrom row = [] ↔ ∀ f ∈ d.fields, Carries row f := by
  simp only [List.eq_nil_iff_forall_not_mem, mem_missingFrom_iff, not_and,
    Classical.not_not]

theorem checkRows_eq (d : Descriptor) (n : Nat) (rows : List Row) :
    d.checkRows n rows =
      match rows.zipIdx.find? fun p => d.missingFrom p.1 ≠ [] with
      | none => .ok ()
      | some (row, i) => .error (.missingFields (n + i + 1) (d.missingFrom row)) := by
  suffices h : ∀ k, d.checkRows (n + k) rows =
      match (rows.zipIdx k).find? fun p => d.missingFrom p.1 ≠ [] with
      | none => .ok ()
      | some (row, i) => .error (.missingFields (n + i + 1) (d.missingFrom row)) by
    simpa using h 0
  induction rows with
  | nil => intro k; rfl
  | cons row rows ih =>
    intro k
    cases hm : d.missingFrom row with
    | nil => simpa [checkRows, hm, Nat.add_assoc] using ih (k + 1)
    | cons f fs => simp [checkRows, hm]

theorem checkRows_ok_iff (d : Descriptor) (n : Nat) (rows : List Row) :
    d.checkRows n rows = .ok () ↔ ∀ row ∈ rows, ∀ f ∈ d.fields, Carries row f := by
  induction rows generalizing n with
  | nil => simp [checkRows]
  | cons row rows ih =>
    rw [List.forall_mem_cons, ← missingFrom_eq_nil_iff, ← ih (n + 1)]
    cases hm : d.missingFrom row with
    | nil => simp [checkRows, hm]
    | cons f fs => simp [checkRows, hm]

theorem mem_dropRepeats (fields seen : List String) {f : String} (hf : f ∈ fields)
    (hs : Text.lowercase f ∉ seen) :
    ∃ g ∈ dropRepeats seen fields, Text.lowercase g = Text.lowercase f := by
  induction fields generalizing seen with
  | nil => simp at hf
  | cons g fields ih =>
    by_cases hg : Text.lowercase g ∈ seen
    · have hne : f ≠ g := fun he => hs (he ▸ hg)
      have hf' : f ∈ fields := (List.mem_cons.mp hf).resolve_left hne
      simpa [dropRepeats, hg] using ih seen hf' hs
    · by_cases he : Text.lowercase f = Text.lowercase g
      · exact ⟨g, by simp [dropRepeats, hg], he.symm⟩
      · have hne : f ≠ g := fun h => he (h ▸ rfl)
        have hf' : f ∈ fields := (List.mem_cons.mp hf).resolve_left hne
        obtain ⟨k, hk, hl⟩ := ih (Text.lowercase g :: seen) hf' (by simp [he, hs])
        exact ⟨k, by simp [dropRepeats, hg, hk], hl⟩

theorem dropRepeats_subset (fields seen : List String) :
    ∀ f ∈ dropRepeats seen fields, f ∈ fields := by
  induction fields generalizing seen with
  | nil => simp [dropRepeats]
  | cons g fields ih =>
    intro f hf
    rw [dropRepeats] at hf
    split at hf
    · exact List.mem_cons_of_mem g (ih _ f hf)
    · obtain rfl | hf := List.mem_cons.mp hf
      · exact List.mem_cons_self
      · exact List.mem_cons_of_mem g (ih _ f hf)

theorem carries_ofFields_iff (fields : List String) (row : Row) :
    (∀ f ∈ (ofFields fields).fields, Carries row f) ↔ ∀ f ∈ fields, Carries row f := by
  constructor
  · intro h f hf
    obtain ⟨g, hg, hl⟩ := mem_dropRepeats fields [] hf (by simp)
    obtain ⟨k, hk, he⟩ := h g hg
    exact ⟨k, hk, he.trans hl⟩
  · exact fun h f hf => h f (dropRepeats_subset fields [] f hf)

end Descriptor

theorem carries_of_validate {fields : List String} {endpoint : String} {b : Batch}
    (hv : validate endpoint (some (.ofFields fields)) b = .ok ()) {row : Row} (hr : row ∈ b.rows)
    {name : String} (hn : name ∈ fields) : Carries row name := by
  have hall := (Descriptor.checkRows_ok_iff _ 0 b.rows).mp hv row hr
  exact (Descriptor.carries_ofFields_iff fields row).mp hall name hn

/-- Whether a value stands in the row under some spelling of the name, and not in place of a field that
the row lacks. -/
def OwnValue (row : Row) (name : String) (value : Json) : Prop :=
  (row.get? name).isSome ∧
    ∃ k, Text.lowercase k = Text.lowercase name ∧ row.get? k = some value

theorem ownValue_valueFor_iff (row : Row) (name : String) :
    OwnValue row name (Plan.valueFor row name) ↔ name ∈ row.keys := by
  rw [Fields.mem_keys_iff]
  constructor
  · rintro ⟨hs, -⟩
    exact Option.isSome_iff_exists.mp hs
  · rintro ⟨v, hv⟩
    exact ⟨by simp [hv], name, rfl, by simp [Plan.valueFor, hv]⟩

/-- Each placeholder of a template over configured names is a field of every accepted row under some
spelling. It is bound to the row's own value exactly where the row spells it as the template does, and
elsewhere to the empty string. -/
theorem bound_value_of_validate (fields : List String) (endpoint : String) (t : Template) (b : Batch)
    (hnames : ∀ name ∈ Plan.names t.plan, name ∈ fields)
    (hvalid : validate endpoint (some (.ofFields fields)) b = .ok ())
    (row : Row) (hrow : row ∈ b.rows) (i : Nat) (name : String)
    (hi : (Plan.names t.plan)[i]? = some name) :
    Carries row name ∧ ∃ value, (Plan.bind t.plan row).values[i]? = some value ∧
      (OwnValue row name value ↔ name ∈ row.keys) ∧
      (name ∉ row.keys → value = .str "") := by
  have hmem : name ∈ Plan.names t.plan := List.mem_of_getElem? hi
  refine ⟨carries_of_validate hvalid hrow (hnames name hmem), Plan.valueFor row name, ?_,
    ownValue_valueFor_iff row name, ?_⟩
  · simp [Plan.bind, hi]
  · intro hk
    simp [Plan.valueFor, (Fields.get?_eq_none_iff name row).mpr hk]

theorem bound_value_of_validate_mixed :
    let t : Template := ⟨"INSERT INTO items VALUES ($Name$, $Qty$)"⟩
    let row : Row := [("Name", .str "x"), ("qty", .int 3)]
    (∀ name ∈ Plan.names t.plan, name ∈ ["Qty", "Name", "QTY"]) ∧
      validate "items" (some (.ofFields ["Qty", "Name", "QTY"])) (.single row) = .ok () ∧
      Carries row "Qty" ∧ ∃ value, (Plan.bind t.plan row).values[1]? = some value ∧
        (OwnValue row "Qty" value ↔ "Qty" ∈ row.keys) ∧ ("Qty" ∉ row.keys → value = .str "") := by
  intro t row
  have hnames : ∀ name ∈ Plan.names t.plan, name ∈ ["Qty", "Name", "QTY"] := by decide +kernel
  have hvalid : validate "items" (some (.ofFields ["Qty", "Name", "QTY"])) (.single row) = .ok () :=
    (Descriptor.checkRows_ok_iff _ _ _).mpr (by decide +kernel)
  exact ⟨hnames, hvalid, bound_value_of_validate _ _ t (.single row) hnames hvalid row
    (by simp [Batch.single]) 1 "Qty" (by decide +kernel)⟩

/-- A row with the field in another spelling is accepted, and its value is lost. -/
theorem accepted_value_lost :
    let t : Template := ⟨"INSERT INTO items VALUES ($Name$)"⟩
    let row : Row := [("name", .str "x")]
    (∀ name ∈ Plan.names t.plan, name ∈ ["Name"]) ∧
      validate "items" (some (.ofFields ["Name"])) (.single row) = .ok () ∧
      Carries row "Name" ∧ (Plan.bind t.plan row).values = [.str ""] ∧
      ¬OwnValue row "Name" (.str "") := by
  intro t row
  refine ⟨by decide +kernel, (Descriptor.checkRows_ok_iff _ _ _).mpr (by decide +kernel),
    by decide +kernel, by decide +kernel, ?_⟩
  rintro ⟨hs, -⟩
  exact absurd hs (by decide +kernel)

end EndpointGate
