import EndpointGate.Proofs.HeaderTexts

/-! Texts in the order of their octets. A character is spelled by greater octets than a lesser one, from the
first octet in which they differ, so that texts are in the order of their characters and of their octets
alike. -/

namespace EndpointGate.Text

/-- Whether octets come before others: at the first difference theirs is the lesser one, or they end there. -/
def OctetsLt (l m : List UInt8) : Prop := List.Lex (fun a b => a.toNat < b.toNat) l m

variable {a b : UInt8} {l m : List UInt8} {c d : Char}

theorem OctetsLt.asymm (h : OctetsLt l m) : ¬OctetsLt m l := List.lex_asymm Nat.lt_asymm h

theorem OctetsLt.append (h : OctetsLt l m) (t : List UInt8) : OctetsLt (t ++ l) (t ++ m) := by
  induction t with
  | nil => exact h
  | cons a t ih => exact .cons ih

theorem octetsLt_cons (h : a.toNat ≤ b.toNat) (hl : a.toNat = b.toNat → OctetsLt l m) :
    OctetsLt (a :: l) (b :: m) := by
  rcases Nat.lt_or_eq_of_le h with hlt | heq
  · exact .rel hlt
  · obtain rfl := UInt8.toNat_inj.mp heq
    exact .cons (hl rfl)

theorem octetsLt_spelling (h : c.toNat < d.toNat) (l m : List UInt8) :
    OctetsLt (String.utf8EncodeChar c ++ l) (String.utf8EncodeChar d ++ m) := by
  have hd : d.toNat < 0x110000 := d.valid.elim (fun h => by change d.val.toNat < _; omega) fun h => h.2
  have hc' : c.val.toNat = c.toNat := rfl
  have hd' : d.val.toNat = d.toNat := rfl
  simp only [String.utf8EncodeChar, hc', hd']
  -- spellings of unequal length differ in their first octet, those of equal length in some octet
  split_ifs <;> simp only [List.cons_append, List.nil_append] <;>
    repeat' first
      | omega
      | refine octetsLt_cons (by simp only [UInt8.toNat_ofNat']; omega) fun heq => ?_
        simp only [UInt8.toNat_ofNat'] at heq

theorem octetsLt_spelled {s t : List Char} (h : List.Lex (fun c d => c.toNat < d.toNat) s t) :
    OctetsLt (s.flatMap String.utf8EncodeChar) (t.flatMap String.utf8EncodeChar) := by
  induction h with
  | @nil d t =>
    obtain ⟨b, m, hd⟩ := List.exists_cons_of_ne_nil (String.utf8EncodeChar_ne_nil (c := d))
    rw [List.flatMap_cons, hd]
    exact .nil
  | rel hlt =>
    rw [List.flatMap_cons, List.flatMap_cons]
    exact octetsLt_spelling hlt _ _
  | cons _ ih =>
    rw [List.flatMap_cons, List.flatMap_cons]
    exact ih.append _

theorem octetsLt_of_lt {s t : String} (h : s < t) : OctetsLt s.toUTF8.data.toList t.toUTF8.data.toList := by
  rw [octets_toUTF8, octets_toUTF8]
  exact octetsLt_spelled h

theorem octets_of_le {s t : String} (h : s ≤ t) : ¬OctetsLt t.toUTF8.data.toList s.toUTF8.data.toList := by
  by_cases hts : t ≤ s
  · rw [String.le_antisymm h hts]
    exact fun hlt => hlt.asymm hlt
  · exact (octetsLt_of_lt (Decidable.byContradiction fun hst => hts (String.not_lt.mp hst))).asymm

end EndpointGate.Text
