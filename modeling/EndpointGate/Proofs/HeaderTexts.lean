import EndpointGate.Http.Service
import EndpointGate.Proofs.EndpointLookup

/-! Texts in headers. A header is read as a text only if all of its octets are visible ASCII, blanks or
tabs; octets above these, which begin and continue every other character, leave it unread, although they may
stand in headers and be the octets of a text. -/

namespace EndpointGate

theorem toUTF8_of_fromUTF8? {octets : ByteArray} {s : String} (h : String.fromUTF8? octets = some s) :
    s.toUTF8 = octets := by
  unfold String.fromUTF8? at h
  split at h
  · obtain rfl := Option.some.inj h
    rfl
  · cases h

theorem octets_toUTF8 (s : String) : s.toUTF8.data.toList = s.toList.flatMap String.utf8EncodeChar := by
  rw [String.toUTF8_eq_toByteArray, ← String.utf8Encode_toList, List.utf8Encode, List.data_toByteArray]

namespace Http

def Visible (s : String) : Prop := ∀ c ∈ s.toList, c = '\t' ∨ 0x20 ≤ c.toNat ∧ c.toNat ≤ 0x7E

-- the instance is named: characters are finitely many, and another goes through all of them
instance (s : String) : Decidable (Visible s) := List.decidableBAll _ s.toList

namespace Request

theorem isVisible_iff (b : UInt8) :
    isVisible b = true ↔ b.toNat = 9 ∨ 0x20 ≤ b.toNat ∧ b.toNat ≤ 0x7E := by
  have hnine : b = 9 ↔ b.toNat = 9 := UInt8.toNat_inj.symm
  have hlow : 32 ≤ b ↔ 0x20 ≤ b.toNat := UInt8.le_iff_toNat_le
  have hhigh : b < 127 ↔ b.toNat < 127 := UInt8.lt_iff_toNat_lt
  simp only [isVisible, Bool.or_eq_true, beq_iff_eq, Bool.and_eq_true, decide_eq_true_eq, hnine, hlow,
    hhigh]
  omega

theorem first_octet {c : Char} (h : ¬c.toNat ≤ 127) :
    ∃ b rest, String.utf8EncodeChar c = b :: rest ∧ 128 ≤ b.toNat := by
  have hbeyond : ∀ n k, 128 ≤ k → n + k < 256 → 128 ≤ (UInt8.ofNat (n + k)).toNat := by
    intro n k hk hsum
    rw [UInt8.toNat_ofNat_of_lt' hsum]
    omega
  have hvalue : c.val.toNat = c.toNat := rfl
  unfold String.utf8EncodeChar
  simp only [hvalue, if_neg h]
  split_ifs
  · exact ⟨_, _, rfl, hbeyond _ _ (by omega) (by omega)⟩
  · exact ⟨_, _, rfl, hbeyond _ _ (by omega) (by omega)⟩
  · exact ⟨_, _, rfl, hbeyond _ _ (by omega) (by omega)⟩

theorem visible_octets_iff (c : Char) : (∀ b ∈ String.utf8EncodeChar c, isVisible b = true) ↔
    c = '\t' ∨ 0x20 ≤ c.toNat ∧ c.toNat ≤ 0x7E := by
  have htab : c = '\t' ↔ c.toNat = 9 := Char.toNat_inj.symm
  by_cases hascii : c.toNat ≤ 127
  · have hone : String.utf8EncodeChar c = [UInt8.ofNat c.toNat] := if_pos hascii
    have hsmall : c.toNat < 256 := by omega
    have hvalue : (UInt8.ofNat c.toNat).toNat = c.toNat := UInt8.toNat_ofNat_of_lt' hsmall
    rw [hone, List.forall_mem_singleton, isVisible_iff, hvalue, htab]
  · obtain ⟨b, rest, hoctets, hbeyond⟩ := first_octet hascii
    rw [hoctets, List.forall_mem_cons, isVisible_iff, htab]
    omega

theorem all_visible_iff (s : String) : s.toUTF8.data.all isVisible = true ↔ Visible s := by
  rw [← Array.all_toList, octets_toUTF8, List.all_eq_true]
  simp only [List.mem_flatMap, forall_exists_index, and_imp]
  constructor
  · intro h c hc
    exact (visible_octets_iff c).mp fun b hb => h b c hc hb
  · intro h b c hc hb
    exact (visible_octets_iff c).mpr (h c hc) b hb

variable {r : Request} {name s : String}

theorem headerText?_eq (h : r.header? name = some s.toUTF8) :
    r.headerText? name = if Visible s then some s else none := by
  simp only [headerText?, h, all_visible_iff, Text.fromUTF8?_toUTF8]

theorem headerText?_eq_some_iff :
    r.headerText? name = some s ↔ r.header? name = some s.toUTF8 ∧ Visible s := by
  constructor
  · intro h
    unfold headerText? at h
    split at h
    · cases h
    · rename_i octets hoctets
      split at h
      · rename_i hall
        obtain rfl := toUTF8_of_fromUTF8? h
        exact ⟨hoctets, (all_visible_iff s).mp hall⟩
      · cases h
  · rintro ⟨h, hvisible⟩
    rw [headerText?_eq h, if_pos hvisible]

end Request

end Http

end EndpointGate
