import EndpointGate.Log.Line
import EndpointGate.Proofs.FieldLists
import EndpointGate.Proofs.OctetOrder
import EndpointGate.Proofs.ValueReading
import Mathlib.Data.List.Nodup

/-! What a log line says. It is one JSON object on one line: what is written are the event, the severity and
the details in the order of their names, and what is read are the same texts, the last of those with one name. -/

namespace EndpointGate.Log

open Json (CharAt CharsAt ValueAt MemberAt MembersAt MoreMembersAt HexAt IsText)
open Text (Glyph)

section Characters

variable {c : Char} {r : List Glyph}

theorem charAt_escapeChar (c : Char) (r : List Glyph) : CharAt ((escapeChar c).map .char ++ r) c r := by
  unfold escapeChar
  split_ifs with hquote hslash hnewline hreturn htab hcontrol
  · subst hquote; exact .named rfl
  · subst hslash; exact .named rfl
  · subst hnewline; exact .named rfl
  · subst hreturn; exact .named rfl
  · subst htab; exact .named rfl
  · have hsmall : c.toNat < 0xA0 := by
      simp only [isControl, Bool.or_eq_true, decide_eq_true_eq, Bool.and_eq_true] at hcontrol
      omega
    exact CharAt.octet (by omega) r
  · have hplain : 0x20 ≤ c.toNat := by
      simp only [isControl, Bool.or_eq_true, decide_eq_true_eq, Bool.and_eq_true] at hcontrol
      omega
    exact .plain hplain hquote hslash

def IsControl (c : Char) : Prop := c.toNat < 0x20 ∨ 0x7F ≤ c.toNat ∧ c.toNat ≤ 0x9F

instance (c : Char) : Decidable (IsControl c) := inferInstanceAs (Decidable (_ ∨ _))

theorem isControl_iff : isControl c = true ↔ IsControl c := by
  simp only [isControl, IsControl, Bool.or_eq_true, decide_eq_true_eq, Bool.and_eq_true]
  omega

theorem not_isControl_escapeChar {x : Char} (h : x ∈ escapeChar c) : ¬IsControl x := by
  have hdigit : ∀ n < 16, ¬IsControl (Text.hexDigit n) := by decide
  have hnamed {y : Char} (hy : ¬IsControl y) (hx : x ∈ ['\\', y]) : ¬IsControl x := by
    simp only [List.mem_cons, List.not_mem_nil, or_false] at hx
    obtain rfl | rfl := hx
    · decide
    · exact hy
  unfold escapeChar at h
  split_ifs at h with hquote hslash hnewline hreturn htab hcontrol
  · exact hnamed (by decide) h
  · exact hnamed (by decide) h
  · exact hnamed (by decide) h
  · exact hnamed (by decide) h
  · exact hnamed (by decide) h
  · rw [isControl_iff, IsControl] at hcontrol
    simp only [List.mem_cons, List.not_mem_nil, or_false] at h
    obtain rfl | rfl | rfl | rfl | rfl | rfl := h
    · decide
    · decide
    · decide
    · decide
    · exact hdigit _ (by omega)
    · exact hdigit _ (by omega)
  · rw [List.mem_singleton.mp h]
    rwa [← isControl_iff]

end Characters

section Line

variable {severity : Severity} {event : String} {details : Details}

def asMembers (details : Details) : List (String × Json) := details.map fun p => (p.1, .str p.2)

theorem keys_asMembers (details : Details) : (asMembers details).map (·.1) = details.map (·.1) := List.map_map ..

def members (severity : Severity) (event : String) (details : Details) : Details :=
  ("event", event) :: ("severity", severity.name) :: sorted details

def memberChars (p : String × String) : List Char :=
  p.1.toList.flatMap escapeChar ++ '"' :: ':' :: '"' :: (p.2.toList.flatMap escapeChar ++ ['"'])

theorem memberText_eq (p : String × String) : memberText p = ',' :: '"' :: memberChars p := by
  simp [memberText, memberChars, quoted]

theorem memberChars_of_plain {p : String × String} (h : p.1.toList.flatMap escapeChar = p.1.toList) :
    memberChars p = p.1.toList ++ '"' :: ':' :: quoted p.2 := by
  rw [memberChars, h, quoted, List.cons_append]

theorem lineChars_eq (severity : Severity) (event : String) (details : Details) :
    lineChars severity event details = '\x7b' :: '"' :: memberChars ("event", event) ++
      (("severity", severity.name) :: sorted details).flatMap memberText ++ ['\x7d'] := by
  have hname : quoted severity.name = '"' :: severity.name.toList ++ ['"'] := by
    cases severity <;> rfl
  have hevent : "event".toList.flatMap escapeChar = "event".toList := by decide
  have hkey : "severity".toList.flatMap escapeChar = "severity".toList := by decide
  -- a rewriting by the definition's equation would evaluate the texts in it
  unfold lineChars
  rw [List.flatMap_cons, memberText_eq, memberChars_of_plain (p := ("event", event)) hevent,
    memberChars_of_plain (p := ("severity", severity.name)) hkey, hname]
  simp

theorem memberAt_memberChars (p : String × String) (r : List Glyph) :
    MemberAt 0 ((memberChars p).map .char ++ r) (p.1, .str p.2) r := by
  have hkey := CharsAt.escaped charAt_escapeChar p.1.toList
    (.char ':' :: .char '"' :: ((p.2.toList.flatMap escapeChar).map .char ++ .char '"' :: r))
  have hvalue := CharsAt.escaped charAt_escapeChar p.2.toList r
  have hmember := MemberAt.mk (d := 0) hkey .none .none (.string hvalue)
  rw [String.ofList_toList, String.ofList_toList] at hmember
  simpa [memberChars] using hmember

theorem moreMembersAt_line (details : Details) (r : List Glyph) :
    MoreMembersAt 0 ((details.flatMap memberText).map .char ++ .char '\x7d' :: r) (asMembers details) r := by
  induction details with
  | nil => exact .none .none
  | cons p details ih =>
    rw [List.flatMap_cons, memberText_eq, List.map_append, List.append_assoc]
    exact .some .none .none (memberAt_memberChars p _) ih

theorem membersAt_line (severity : Severity) (event : String) (details : Details) :
    ∃ t, Text.glyphsOf (render severity event details) = .char '\x7b' :: t ∧
      MembersAt 0 t (asMembers (members severity event details)) [.char '\n'] := by
  rw [Text.glyphsOf, render, String.toList_ofList, lineChars_eq, List.map_append, List.map_append,
    List.map_append, List.append_assoc, List.append_assoc]
  exact ⟨_, rfl, .some .none (memberAt_memberChars ("event", event) _)
    (moreMembersAt_line (("severity", severity.name) :: sorted details) _)⟩

theorem isText_render (severity : Severity) (event : String) (details : Details) :
    IsText 1 (Text.glyphsOf (render severity event details))
      (.obj (Fields.ofList (asMembers (members severity event details)))) := by
  obtain ⟨t, ht, hmembers⟩ := membersAt_line severity event details
  rw [ht]
  exact ⟨_, [.char '\n'], .none, .object hmembers, .more (by decide) .none⟩

theorem read_render (severity : Severity) (event : String) (details : Details) :
    Json.read .any (render severity event details) =
      .ok (.obj (Fields.ofList (asMembers (members severity event details)))) :=
  Json.readGlyphs_any_eq_ok_iff.mpr ((isText_render severity event details).mono (by decide))

theorem not_isControl_memberText {p : String × String} {c : Char} (h : c ∈ memberText p) : ¬IsControl c := by
  have hescaped (s : String) (hc : c ∈ s.toList.flatMap escapeChar) : ¬IsControl c := by
    obtain ⟨x, -, hx⟩ := List.mem_flatMap.mp hc
    exact not_isControl_escapeChar hx
  simp only [memberText_eq, memberChars, List.mem_cons, List.mem_append, List.not_mem_nil, or_false] at h
  obtain rfl | rfl | hkey | rfl | rfl | rfl | hvalue | rfl := h
  · decide
  · decide
  · exact hescaped _ hkey
  · decide
  · decide
  · decide
  · exact hescaped _ hvalue
  · decide

theorem not_isControl_lineChars {c : Char} (h : c ∈ lineChars severity event details) : ¬IsControl c := by
  have hmember (p : String × String) (hc : c ∈ '"' :: memberChars p) : ¬IsControl c :=
    not_isControl_memberText (p := p) (memberText_eq p ▸ .tail _ hc)
  rw [lineChars_eq, List.mem_append, List.mem_append] at h
  obtain (h | h) | h := h
  · obtain rfl | h := List.mem_cons.mp h
    · decide
    · exact hmember _ h
  · obtain ⟨p, -, hp⟩ := List.mem_flatMap.mp h
    exact not_isControl_memberText hp
  · obtain rfl := List.mem_singleton.mp h
    decide

end Line

section Order

variable {severity : Severity} {event : String} {details other : Details} {key : String}

theorem sorted_perm (details : Details) : (sorted details).Perm details := List.mergeSort_perm ..

theorem mem_keys_sorted : key ∈ (sorted details).map (·.1) ↔ key ∈ details.map (·.1) :=
  ((sorted_perm details).map _).mem_iff

theorem keys_trans (a b c : String × String) (hab : decide (a.1 ≤ b.1) = true)
    (hbc : decide (b.1 ≤ c.1) = true) : decide (a.1 ≤ c.1) = true := by
  simp only [decide_eq_true_eq] at *
  exact String.le_trans hab hbc

theorem keys_total (a b : String × String) : (decide (a.1 ≤ b.1) || decide (b.1 ≤ a.1)) = true := by
  simpa using String.le_total a.1 b.1

theorem pairwise_sorted (details : Details) : (sorted details).Pairwise fun a b => a.1 ≤ b.1 :=
  (List.pairwise_mergeSort keys_trans keys_total details).imp fun h => of_decide_eq_true h

theorem filter_sorted (key : String) (details : Details) :
    (sorted details).filter (·.1 == key) = details.filter (·.1 == key) := by
  -- those of one name are in order as they stand, so that the sort leaves them a sublist
  have halike : (details.filter (·.1 == key)).Pairwise fun a b => decide (a.1 ≤ b.1) = true := by
    refine List.pairwise_of_forall_mem_list fun a ha b hb => ?_
    have hsame : a.1 = b.1 :=
      (eq_of_beq (List.mem_filter.mp ha).2).trans (eq_of_beq (List.mem_filter.mp hb).2).symm
    exact decide_eq_true (hsame ▸ String.le_refl a.1)
  have hsub : (details.filter (·.1 == key)).Sublist (sorted details) :=
    List.sublist_mergeSort keys_trans keys_total halike List.filter_sublist
  have hfiltered := hsub.filter (·.1 == key)
  rw [List.filter_filter] at hfiltered
  simp only [Bool.and_self] at hfiltered
  exact (hfiltered.eq_of_length ((sorted_perm details).filter _).length_eq.symm).symm

theorem sorted_eq_of_perm (h : other.Perm details) (hnames : (details.map (·.1)).Nodup) :
    sorted other = sorted details := by
  have hperm := ((sorted_perm other).trans h).trans (sorted_perm details).symm
  refine hperm.eq_of_pairwise (fun a b ha hb hab hba => ?_) (pairwise_sorted other) (pairwise_sorted details)
  have ha' := (sorted_perm details).mem_iff.mp (hperm.mem_iff.mp ha)
  have hb' := (sorted_perm details).mem_iff.mp hb
  exact List.inj_on_of_nodup_map hnames ha' hb' (String.le_antisymm hab hba)

theorem get?_members (hevent : key ≠ "event") (hseverity : key ≠ "severity") :
    (Fields.ofList (asMembers (members severity event details))).get? key =
      (Fields.ofList (asMembers details)).get? key := by
  have hfilter (d : Details) : (asMembers d).filter (·.1 == key) = asMembers (d.filter (·.1 == key)) :=
    List.filter_map ..
  have hnone : (members severity event details).filter (·.1 == key) =
      (sorted details).filter (·.1 == key) := by
    rw [members, List.filter_cons_of_neg (by simpa using hevent.symm),
      List.filter_cons_of_neg (by simpa using hseverity.symm)]
  rw [Fields.get?_ofList, Fields.get?_ofList, hfilter, hfilter, hnone, filter_sorted]

theorem get?_members_event (h : "event" ∉ details.map (·.1)) :
    (Fields.ofList (asMembers (members severity event details))).get? "event" = some (.str event) := by
  have hafter : "event" ∉ (asMembers (("severity", severity.name) :: sorted details)).map (·.1) := by
    rwa [keys_asMembers, List.map_cons, List.mem_cons, mem_keys_sorted,
      or_iff_right (show "event" ≠ "severity" by decide)]
  exact @Fields.get?_ofList_of_last Json [] _ ("event", .str event) hafter

theorem get?_members_severity (h : "severity" ∉ details.map (·.1)) :
    (Fields.ofList (asMembers (members severity event details))).get? "severity" =
      some (.str severity.name) := by
  have hafter : "severity" ∉ (asMembers (sorted details)).map (·.1) := by
    rwa [keys_asMembers, mem_keys_sorted]
  exact @Fields.get?_ofList_of_last Json [("event", .str event)] _ ("severity", .str severity.name) hafter

/-- A line reads as an object of the event, the severity and the details, whatever characters these have, and it
ends where its only line end is. -/
theorem render_faithful (hevent : "event" ∉ details.map (·.1)) (hseverity : "severity" ∉ details.map (·.1)) :
    (∃ line : List Char, render severity event details = String.ofList (line ++ ['\n']) ∧
      ∀ c ∈ line, ¬IsControl c) ∧
    (∃ fields : Fields Json, Json.read .any (render severity event details) = .ok (.obj fields) ∧ fields.Ordered ∧
      (∀ key, key ∈ fields.keys ↔ key = "event" ∨ key = "severity" ∨ key ∈ details.map (·.1)) ∧
      fields.get? "event" = some (.str event) ∧ fields.get? "severity" = some (.str severity.name) ∧
      ∀ before p after, details = before ++ p :: after → p.1 ∉ after.map (·.1) →
        fields.get? p.1 = some (.str p.2)) ∧
    (∃ written t, written.Perm details ∧
      (written.Pairwise fun a b => ¬Text.OctetsLt b.1.toUTF8.data.toList a.1.toUTF8.data.toList) ∧
      Text.glyphsOf (render severity event details) = .char '\x7b' :: t ∧
      MembersAt 0 t (asMembers (("event", event) :: ("severity", severity.name) :: written)) [.char '\n']) ∧
    ((details.map (·.1)).Nodup → ∀ other : Details, other.Perm details →
      render severity event other = render severity event details) := by
  refine ⟨⟨_, rfl, fun c hc => not_isControl_lineChars hc⟩,
    ⟨_, read_render severity event details, Fields.ordered_ofList _, fun key => ?keys,
      get?_members_event hevent, get?_members_severity hseverity, ?last⟩,
    ?order, fun hnames other hperm => ?same⟩
  case keys =>
    rw [Fields.mem_keys_ofList, keys_asMembers, members, List.map_cons, List.map_cons, List.mem_cons,
      List.mem_cons, mem_keys_sorted]
  case last =>
    rintro before p after rfl hlast
    have hp : p.1 ∈ (before ++ p :: after).map (·.1) := List.mem_map_of_mem (by simp)
    rw [get?_members (fun h => hevent (h ▸ hp)) (fun h => hseverity (h ▸ hp)), asMembers, List.map_append]
    rw [← keys_asMembers after] at hlast
    exact @Fields.get?_ofList_of_last Json (asMembers before) (asMembers after) (p.1, .str p.2) hlast
  case order =>
    obtain ⟨t, ht, hmembers⟩ := membersAt_line severity event details
    exact ⟨sorted details, t, sorted_perm details,
      (pairwise_sorted details).imp Text.octets_of_le, ht, hmembers⟩
  case same =>
    unfold render lineChars
    rw [sorted_eq_of_perm hperm hnames]

theorem render_faithful_of_reasons :
    let details : Details :=
      [("reason", "near \"VALUES\":\n"), ("path", "\\u0022\x7d"), ("reason", "\u0085")]
    "event" ∉ details.map (·.1) ∧ "severity" ∉ details.map (·.1) ∧
    ∃ fields : Fields Json, Json.read .any (render .error "A\nB" details) = .ok (.obj fields) ∧
      fields.get? "event" = some (.str "A\nB") ∧ fields.get? "severity" = some (.str "ERROR") ∧
      fields.get? "path" = some (.str "\\u0022\x7d") ∧ fields.get? "reason" = some (.str "\u0085") := by
  intro details
  have hevent : "event" ∉ details.map (·.1) := by decide
  have hseverity : "severity" ∉ details.map (·.1) := by decide
  obtain ⟨-, ⟨fields, hread, -, -, hevent', hseverity', hlast⟩, -, -⟩ :=
    @render_faithful .error "A\nB" details hevent hseverity
  exact ⟨hevent, hseverity, fields, hread, hevent', hseverity', hlast [_] _ [_] rfl (by decide),
    hlast [_, _] _ [] rfl (by decide)⟩

end Order

end EndpointGate.Log
