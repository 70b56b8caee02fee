import EndpointGate.Proofs.OctetText
import EndpointGate.Proofs.ValueReading
import EndpointGate.Proofs.RelevantFields

/-! Which form a body has. A value is a batch, one row or malformed by its member `rows`, and nothing of it is
lost. Octets are first read as JSON, except blanks, which are a row without fields. -/

namespace EndpointGate

namespace Json

def IsJson (d : Nat) (octets : ByteArray) (j : Json) : Prop :=
  ∃ s : String, octets = s.toUTF8 ∧ IsText d (Text.glyphsOf s) j

theorem isJson_iff {d : Nat} {octets : ByteArray} {j : Json} :
    IsJson d octets j ↔ IsText d (Text.glyphs octets) j := by
  constructor
  · rintro ⟨s, rfl, h⟩
    rwa [Text.glyphs_toUTF8]
  · intro h
    obtain ⟨cs, hcs⟩ := h.written
    rw [List.append_nil] at hcs
    refine ⟨String.ofList cs, Text.eq_toUTF8_of_glyphs hcs, ?_⟩
    rwa [Text.glyphsOf, String.toList_ofList, ← hcs]

theorem readOctets_any_eq_ok_iff {octets : ByteArray} {j : Json} :
    readOctets .any octets = .ok j ↔ IsJson 127 octets j :=
  readGlyphs_any_eq_ok_iff.trans isJson_iff.symm

theorem isJson_of_read {s : String} {j : Json} (h : (read .any s).toOption = some j) :
    IsJson 127 s.toUTF8 j :=
  ⟨s, rfl, readGlyphs_any_eq_ok_iff.mp (toOption_eq_some h)⟩

theorem not_isJson_of_read {s : String} (h : (read .any s).toOption = none) (j : Json) :
    ¬IsJson 127 s.toUTF8 j := by
  intro hj
  have hok := readOctets_any_eq_ok_iff.mpr hj
  rw [readOctets, Text.glyphs_toUTF8] at hok
  rw [read, hok] at h
  cases h

end Json

open Json (IsJson)

namespace InvocationBody

inductive Malformed : Json → GatewayError → Prop
  | noObject {v : Json} : (∀ fields, v ≠ .obj fields) →
    Malformed v (.malformedRequest "body must be a JSON object")
  | noRow {fields : Row} {items : List Json} {n : Nat} {item : Json} :
    fields.get? "rows" = some (.arr items) → items[n]? = some item → (∀ row, item ≠ .obj row) →
    (∀ m < n, ∃ row, items[m]? = some (.obj row)) →
    Malformed (.obj fields) (.malformedRequest ("rows[" ++ toString n ++ "] must be a JSON object"))

variable {items : List Json} {rows : List Row} {v : Json} {e : GatewayError}

theorem rowsOf_map_obj (n : Nat) (rows : List Row) : rowsOf n (rows.map .obj) = .ok rows := by
  induction rows generalizing n with
  | nil => rfl
  | cons row rows ih => rw [List.map_cons, rowsOf, ih]; rfl

theorem rowsOf_cases (n : Nat) (items : List Json) :
    (∃ rows : List Row, items = rows.map .obj) ∨
    ∃ k item, items[k]? = some item ∧ (∀ row, item ≠ .obj row) ∧
      (∀ m < k, ∃ row, items[m]? = some (.obj row)) ∧
      rowsOf n items = .error (.malformedRequest ("rows[" ++ toString (n + k) ++ "] must be a JSON object")) := by
  induction items generalizing n with
  | nil => exact .inl ⟨[], rfl⟩
  | cons item items ih =>
    by_cases hrow : ∃ row, item = .obj row
    · obtain ⟨row, rfl⟩ := hrow
      obtain ⟨rows, rfl⟩ | ⟨k, bad, hk, hbad, hbefore, he⟩ := ih (n + 1)
      · exact .inl ⟨row :: rows, rfl⟩
      · refine .inr ⟨k + 1, bad, hk, hbad, fun m hm => ?_, ?_⟩
        · cases m with
          | zero => exact ⟨row, rfl⟩
          | succ m => exact hbefore m (Nat.lt_of_succ_lt_succ hm)
        · rw [rowsOf, he, show n + 1 + k = n + (k + 1) by omega]
          rfl
    · refine .inr ⟨0, item, rfl, fun row h => hrow ⟨row, h⟩, fun m hm => absurd hm (Nat.not_lt_zero m), ?_⟩
      cases item with
      | obj row => exact absurd ⟨row, rfl⟩ hrow
      | null | bool | int | real | str | arr => rfl

theorem ofJson_of_rows {fields : Row} (h : fields.get? "rows" = some (.arr (rows.map .obj))) :
    ofJson (.obj fields) = .ok (.batch rows) := by
  simp only [ofJson, h, rowsOf_map_obj]
  rfl

theorem ofJson_of_malformed (h : Malformed v e) : ofJson v = .error e := by
  cases h with
  | noObject hv =>
    cases v with
    | obj fields => exact absurd rfl (hv fields)
    | null | bool | int | real | str | arr => rfl
  | @noRow fields items n item hrows hitem hbad hbefore =>
    obtain ⟨rows, rfl⟩ | ⟨k, bad, hk, hkbad, hkbefore, he⟩ := rowsOf_cases 0 items
    · rw [List.getElem?_map] at hitem
      obtain ⟨row, -, rfl⟩ := Option.map_eq_some_iff.mp hitem
      exact absurd rfl (hbad row)
    · -- neither of two least indices lies before the other
      have hle : n ≤ k := Nat.le_of_not_lt fun hlt => by
        obtain ⟨row, hrow⟩ := hbefore k hlt
        exact hkbad row (Option.some.inj (hk.symm.trans hrow))
      have hge : k ≤ n := Nat.le_of_not_lt fun hlt => by
        obtain ⟨row, hrow⟩ := hkbefore n hlt
        exact hbad row (Option.some.inj (hitem.symm.trans hrow))
      obtain rfl := Nat.le_antisymm hle hge
      simp only [ofJson, hrows, he, Nat.zero_add]
      rfl

theorem form_cases (v : Json) :
    (∃ fields : Row, ∃ rows : List Row, v = .obj fields ∧ fields.get? "rows" = some (.arr (rows.map .obj))) ∨
    (∃ fields : Row, v = .obj fields ∧ ¬HasRows fields) ∨ ∃ e, Malformed v e := by
  cases v with
  | null | bool | int | real | str | arr => exact .inr (.inr ⟨_, .noObject fun fields h => by cases h⟩)
  | obj fields =>
    by_cases hrows : HasRows fields
    · obtain ⟨items, hitems⟩ := hrows
      obtain ⟨rows, rfl⟩ | ⟨k, bad, hk, hbad, hbefore, -⟩ := rowsOf_cases 0 items
      · exact .inl ⟨fields, rows, rfl, hitems⟩
      · exact .inr (.inr ⟨_, .noRow hitems hk hbad hbefore⟩)
    · exact .inr (.inl ⟨fields, rfl, hrows⟩)

theorem ofJson_eq_batch_iff : ofJson v = .ok (.batch rows) ↔
    ∃ fields : Row, v = .obj fields ∧ fields.get? "rows" = some (.arr (rows.map .obj)) := by
  constructor
  · intro h
    obtain ⟨fields, rows', rfl, hrows⟩ | ⟨fields, rfl, hrows⟩ | ⟨e, he⟩ := form_cases v
    · rw [ofJson_of_rows hrows] at h
      obtain rfl := InvocationBody.batch.inj (Except.ok.inj h)
      exact ⟨fields, rfl, hrows⟩
    · rw [ofJson_of_not_hasRows hrows] at h
      cases Except.ok.inj h
    · rw [ofJson_of_malformed he] at h
      cases h
  · rintro ⟨fields, rfl, hrows⟩
    exact ofJson_of_rows hrows

theorem ofJson_eq_single_iff {row : Row} :
    ofJson v = .ok (.single row) ↔ v = .obj row ∧ ¬HasRows row := by
  constructor
  · intro h
    obtain ⟨fields, rows', rfl, hrows⟩ | ⟨fields, rfl, hrows⟩ | ⟨e, he⟩ := form_cases v
    · rw [ofJson_of_rows hrows] at h
      cases Except.ok.inj h
    · rw [ofJson_of_not_hasRows hrows] at h
      obtain rfl := InvocationBody.single.inj (Except.ok.inj h)
      exact ⟨rfl, hrows⟩
    · rw [ofJson_of_malformed he] at h
      cases h
  · rintro ⟨rfl, hrows⟩
    exact ofJson_of_not_hasRows hrows

theorem ofJson_eq_error_iff : ofJson v = .error e ↔ Malformed v e := by
  refine ⟨fun h => ?_, ofJson_of_malformed⟩
  obtain ⟨fields, rows', rfl, hrows⟩ | ⟨fields, rfl, hrows⟩ | ⟨e', he⟩ := form_cases v
  · rw [ofJson_of_rows hrows] at h
    cases h
  · rw [ofJson_of_not_hasRows hrows] at h
    cases h
  · rw [ofJson_of_malformed he] at h
    exact Except.error.inj h ▸ he

end InvocationBody

namespace Http.Service

def IsBlank (body : ByteArray) : Prop := ∀ b ∈ body.data.toList, b ∈ [0x09, 0x0A, 0x0C, 0x0D, 0x20]

variable {body : ByteArray} {j : Json}

theorem all_isBlankOctet_iff : body.data.all isBlankOctet = true ↔ IsBlank body := by
  rw [Array.all_eq_true_iff_forall_mem]
  simp only [isBlankOctet, IsBlank, Bool.or_eq_true, beq_iff_eq, List.mem_cons, List.not_mem_nil, or_false,
    Array.mem_toList_iff]
  grind

theorem invocationBody_of_blank (h : IsBlank body) : invocationBody body = .ok (.single []) := by
  rw [invocationBody, if_pos (all_isBlankOctet_iff.mpr h)]
  rfl

theorem not_isBlank_of_json {d : Nat} (h : IsJson d body j) : ¬IsBlank body := by
  obtain ⟨s, rfl, t, r, hblanks, hvalue, -⟩ := h
  obtain ⟨x, u, rfl, hx⟩ := hvalue.opens
  have hmem : x ∈ s.toList := by
    have hglyph := hblanks.subset (List.mem_cons_self ..)
    obtain ⟨y, hy, hxy⟩ := List.mem_map.mp hglyph
    obtain rfl := Text.Glyph.char.inj hxy
    exact hy
  have hascii := hx.ascii
  have hspelled : UInt8.ofNat x.toNat ∈ s.toUTF8.data.toList := by
    rw [octets_toUTF8]
    refine List.mem_flatMap.mpr ⟨x, hmem, ?_⟩
    rw [show String.utf8EncodeChar x = [UInt8.ofNat x.toNat] from
      if_pos (show x.toNat ≤ 127 by omega)]
    exact List.mem_singleton_self _
  intro hblank
  have hoctet : (UInt8.ofNat x.toNat).toNat = x.toNat := UInt8.toNat_ofNat_of_lt' (show x.toNat < 256 by omega)
  have hwhite := hblank _ hspelled
  generalize UInt8.ofNat x.toNat = b at hoctet hwhite
  simp only [List.mem_cons, List.not_mem_nil, or_false] at hwhite
  obtain rfl | rfl | rfl | rfl | rfl := hwhite <;> revert hoctet <;> simp <;> omega

theorem invocationBody_of_json (h : IsJson 127 body j) : invocationBody body = InvocationBody.ofJson j := by
  rw [invocationBody, if_neg fun hall => not_isBlank_of_json h (all_isBlankOctet_iff.mp hall),
    Json.readOctets_any_eq_ok_iff.mpr h]

theorem invocationBody_of_no_json (hblank : ¬IsBlank body) (h : ∀ j, ¬IsJson 127 body j) :
    ∃ reason, invocationBody body = .error (.malformedRequest ("invalid JSON body: " ++ reason)) := by
  rw [invocationBody, if_neg fun hall => hblank (all_isBlankOctet_iff.mp hall)]
  cases hread : Json.readOctets .any body with
  | ok j => exact absurd (Json.readOctets_any_eq_ok_iff.mp hread) (h j)
  | error e => exact ⟨e.message, rfl⟩

/-- What a body is taken for. It is malformed where it is no JSON, or a value without a form. -/
theorem invocationBody_forms :
    (∀ (v : Json) (rows : List Row), InvocationBody.ofJson v = .ok (.batch rows) ↔
      ∃ fields : Row, v = .obj fields ∧ fields.get? "rows" = some (.arr (rows.map .obj))) ∧
    (∀ (v : Json) (row : Row), InvocationBody.ofJson v = .ok (.single row) ↔
      v = .obj row ∧ ¬InvocationBody.HasRows row) ∧
    (∀ (v : Json) (e : GatewayError), InvocationBody.ofJson v = .error e ↔ InvocationBody.Malformed v e) ∧
    (∀ body : ByteArray, IsBlank body → invocationBody body = .ok (.single [])) ∧
    (∀ (body : ByteArray) (j : Json), IsJson 127 body j → invocationBody body = InvocationBody.ofJson j) ∧
    (∀ body : ByteArray, ¬IsBlank body → (∀ j, ¬IsJson 127 body j) →
      ∃ reason, invocationBody body = .error (.malformedRequest ("invalid JSON body: " ++ reason))) ∧
    (∀ (body : ByteArray) (row : Row), invocationBody body = .ok (.single row) →
      ¬InvocationBody.HasRows row) := by
  refine ⟨fun _ _ => InvocationBody.ofJson_eq_batch_iff, fun _ _ => InvocationBody.ofJson_eq_single_iff,
    fun _ _ => InvocationBody.ofJson_eq_error_iff, fun _ => invocationBody_of_blank,
    fun _ _ => invocationBody_of_json, fun _ => invocationBody_of_no_json, ?_⟩
  intro body row h
  by_cases hblank : IsBlank body
  · rw [invocationBody_of_blank hblank] at h
    obtain rfl := InvocationBody.single.inj (Except.ok.inj h)
    rintro ⟨items, hitems⟩
    cases hitems
  by_cases hjson : ∃ j, IsJson 127 body j
  · obtain ⟨j, hj⟩ := hjson
    rw [invocationBody_of_json hj] at h
    exact (InvocationBody.ofJson_eq_single_iff.mp h).2
  · obtain ⟨reason, hreason⟩ := invocationBody_of_no_json hblank fun j hj => hjson ⟨j, hj⟩
    rw [hreason] at h
    cases h

theorem invocationBody_forms_of_texts :
    invocationBody " \t\r\n".toUTF8 = .ok (.single []) ∧
    invocationBody "\x7b\"rows\":[\x7b\"a\":1\x7d]\x7d".toUTF8 =
      InvocationBody.ofJson (.obj [("rows", .arr [.obj [("a", .int 1)]])]) ∧
    (∃ reason, invocationBody "\x7b".toUTF8 =
      .error (.malformedRequest ("invalid JSON body: " ++ reason))) ∧
    ¬InvocationBody.HasRows [("rows", .int 1)] := by
  obtain ⟨-, -, -, hblank, hjson, hnone, hsingle⟩ := invocationBody_forms
  have hone : invocationBody "\x7b\"rows\":1\x7d".toUTF8 = .ok (.single [("rows", .int 1)]) :=
    hjson _ (.obj [("rows", .int 1)]) (Json.isJson_of_read (by decide +kernel))
  exact ⟨hblank _ (all_isBlankOctet_iff.mp (by decide +kernel)),
    hjson _ _ (Json.isJson_of_read (by decide +kernel)),
    hnone _ (mt all_isBlankOctet_iff.mpr (by decide +kernel)) (Json.not_isJson_of_read (by decide +kernel)),
    hsingle _ _ hone⟩

section Depth

open Json (ValueAt IsText)
open Text (Glyph)

def nest : Nat → Json
  | 0 => .arr []
  | n + 1 => .arr [nest n]

theorem valueAt_nest (n : Nat) (r : List Glyph) : ValueAt (n + 1)
    (List.replicate (n + 1) (.char '[') ++ (List.replicate (n + 1) (.char ']') ++ r)) (nest n) r := by
  induction n generalizing r with
  | zero => exact .list (.none .none)
  | succ n ih =>
    have hclose : List.replicate (n + 2) (Glyph.char ']') ++ r =
        List.replicate (n + 1) (.char ']') ++ .char ']' :: r := by
      rw [List.replicate_succ', List.append_assoc]
      rfl
    rw [List.replicate_succ, List.cons_append, hclose]
    exact .list (.some .none (ih _) (.none .none))

def deepText : List Char :=
  ['\x7b', '"', 'a', '"', ':'] ++ List.replicate 127 '[' ++ List.replicate 127 ']' ++ ['\x7d']

theorem isText_deepText : IsText 128 (deepText.map .char) (.obj [("a", nest 126)]) := by
  have hvalue := valueAt_nest 126 [.char '\x7d']
  have hmember : Json.MemberAt 127 (.char 'a' :: .char '"' :: .char ':' ::
      (List.replicate 127 (.char '[') ++ (List.replicate 127 (.char ']') ++ [.char '\x7d'])))
      ("a", nest 126) [.char '\x7d'] :=
    .mk (.more (.plain (by decide) (by decide) (by decide)) .close) .none .none hvalue
  refine ⟨_, [], .none, ?_, .none⟩
  simp only [deepText, List.map_append, List.map_replicate, List.append_assoc]
  exact .object (.some .none hmember (.none .none))

theorem read_deepText : (Json.read .any (String.ofList deepText)).toOption = none := by
  have hnone : (Json.readGlyphs .any (deepText.map .char)).toOption.isNone = true := by decide +kernel
  rw [Json.read, Text.glyphsOf, String.toList_ofList]
  exact Option.isNone_iff_eq_none.mp hnone

/-- A body may be JSON and yet not be taken for its value: it is nested too deep. -/
theorem invocationBody_of_deep_json : ¬∀ (d : Nat) (body : ByteArray) (j : Json), IsJson d body j →
    invocationBody body = InvocationBody.ofJson j := by
  intro h
  have hjson : IsJson 128 (String.ofList deepText).toUTF8 (.obj [("a", nest 126)]) :=
    ⟨_, rfl, by rw [Text.glyphsOf, String.toList_ofList]; exact isText_deepText⟩
  -- taken for its value it would be a row alone
  have hread := h _ _ _ hjson
  rw [InvocationBody.ofJson_of_not_hasRows (by rintro ⟨items, hitems⟩; cases hitems)] at hread
  obtain ⟨reason, hreason⟩ :=
    invocationBody_of_no_json (not_isBlank_of_json hjson) (Json.not_isJson_of_read read_deepText)
  rw [hreason] at hread
  cases hread

end Depth

end Http.Service

end EndpointGate
