import EndpointGate.Text.Utf8
import EndpointGate.Proofs.HeaderTexts

/-! Octets in which only characters are seen are those of a text. An octet that starts a character leaves a
piece of it; what is known of the piece is kept octet by octet, until its bits make the character that these
octets spell. -/

namespace EndpointGate.Text

section Spelling

variable {n : Nat} {a b b₁ b₂ b₃ : UInt8} {p q : Partial} {c : Char}

theorem val_toNat_ofNat (h : n < 0xD800 ∨ 0xDFFF < n ∧ n < 0x110000) :
    (Char.ofNat n).val.toNat = n := by
  have hvalid : n.isValidChar := h
  rw [Char.ofNat, dif_pos hvalid]
  rfl

theorem eq_ofNat_of_toNat (h : b.toNat = n) : UInt8.ofNat n = b := by
  rw [← h, UInt8.ofNat_toNat]

theorem spelling_one (h : n < 0x80) (hb : b.toNat = n) : String.utf8EncodeChar (Char.ofNat n) = [b] := by
  have hval := val_toNat_ofNat (n := n) (by omega)
  simp only [String.utf8EncodeChar, hval]
  rw [if_pos (by omega), eq_ofNat_of_toNat hb]

theorem spelling_two (h : 0x80 ≤ n) (h' : n < 0x800) (hb : b.toNat = n / 64 + 0xC0)
    (hb₁ : b₁.toNat = n % 64 + 0x80) : String.utf8EncodeChar (Char.ofNat n) = [b, b₁] := by
  have hval := val_toNat_ofNat (n := n) (by omega)
  simp only [String.utf8EncodeChar, hval]
  rw [if_neg (by omega), if_pos (by omega), eq_ofNat_of_toNat (b := b) (by omega), eq_ofNat_of_toNat hb₁]

theorem spelling_three (h : 0x800 ≤ n) (h' : n < 0xD800 ∨ 0xDFFF < n ∧ n < 0x10000)
    (hb : b.toNat = n / 4096 + 0xE0) (hb₁ : b₁.toNat = n / 64 % 64 + 0x80) (hb₂ : b₂.toNat = n % 64 + 0x80) :
    String.utf8EncodeChar (Char.ofNat n) = [b, b₁, b₂] := by
  have hval := val_toNat_ofNat (n := n) (by omega)
  simp only [String.utf8EncodeChar, hval]
  rw [if_neg (by omega), if_neg (by omega), if_pos (by omega), eq_ofNat_of_toNat (b := b) (by omega),
    eq_ofNat_of_toNat hb₁, eq_ofNat_of_toNat hb₂]

theorem spelling_four (h : 0x10000 ≤ n) (h' : n < 0x110000) (hb : b.toNat = n / 262144 + 0xF0)
    (hb₁ : b₁.toNat = n / 4096 % 64 + 0x80) (hb₂ : b₂.toNat = n / 64 % 64 + 0x80)
    (hb₃ : b₃.toNat = n % 64 + 0x80) : String.utf8EncodeChar (Char.ofNat n) = [b, b₁, b₂, b₃] := by
  have hval := val_toNat_ofNat (n := n) (by omega)
  simp only [String.utf8EncodeChar, hval]
  rw [if_neg (by omega), if_neg (by omega), if_neg (by omega), eq_ofNat_of_toNat (b := b) (by omega),
    eq_ofNat_of_toNat hb₁, eq_ofNat_of_toNat hb₂, eq_ofNat_of_toNat hb₃]

theorem startAt_whole (h : startAt b = .whole c) : String.utf8EncodeChar c = [b] := by
  simp only [startAt] at h
  split_ifs at h with hb
  obtain rfl := Start.whole.inj h
  exact spelling_one hb rfl

/-- A character part way through, by the octets seen: their bits are collected in `n`, and what is still
owed makes a character that these octets begin. -/
inductive Partial.Under : Partial → Prop
  | two {b : UInt8} {n : Nat} : b.toNat = n + 0xC0 → 2 ≤ n → n < 32 → Under ⟨[b], 1, 0x80, 0xBF, n⟩
  | three {b : UInt8} {n low high : Nat} : b.toNat = n + 0xE0 → n < 16 → 0x80 ≤ low → high ≤ 0xBF →
    (n = 0 → 0xA0 ≤ low) → (n = 13 → high ≤ 0x9F) → Under ⟨[b], 2, low, high, n⟩
  | three₂ {b b₁ : UInt8} {n : Nat} : b.toNat = n / 64 + 0xE0 → b₁.toNat = n % 64 + 0x80 → 0x20 ≤ n →
    n < 0x360 ∨ 0x37F < n ∧ n < 0x400 → Under ⟨[b₁, b], 1, 0x80, 0xBF, n⟩
  | four {b : UInt8} {n low high : Nat} : b.toNat = n + 0xF0 → n ≤ 4 → 0x80 ≤ low → high ≤ 0xBF →
    (n = 0 → 0x90 ≤ low) → (n = 4 → high ≤ 0x8F) → Under ⟨[b], 3, low, high, n⟩
  | four₂ {b b₁ : UInt8} {n : Nat} : b.toNat = n / 64 + 0xF0 → b₁.toNat = n % 64 + 0x80 → 0x10 ≤ n →
    n < 0x110 → Under ⟨[b₁, b], 2, 0x80, 0xBF, n⟩
  | four₃ {b b₁ b₂ : UInt8} {n : Nat} : b.toNat = n / 4096 + 0xF0 → b₁.toNat = n / 64 % 64 + 0x80 →
    b₂.toNat = n % 64 + 0x80 → 0x400 ≤ n → n < 0x4400 → Under ⟨[b₂, b₁, b], 1, 0x80, 0xBF, n⟩

theorem startAt_part (h : startAt b = .part p) : p.Under ∧ p.seen = [b] := by
  simp only [startAt] at h
  split_ifs at h <;> obtain rfl := Start.part.inj h
  · exact ⟨.two (by omega) (by omega) (by omega), rfl⟩
  · exact ⟨.three (by omega) (by omega) (by omega) (by omega) (by omega) (by omega), rfl⟩
  · exact ⟨.three (by omega) (by omega) (by omega) (by omega) (by omega) (by omega), rfl⟩
  · exact ⟨.three (by omega) (by omega) (by omega) (by omega) (by omega) (by omega), rfl⟩
  · exact ⟨.four (by omega) (by omega) (by omega) (by omega) (by omega) (by omega), rfl⟩
  · exact ⟨.four (by omega) (by omega) (by omega) (by omega) (by omega) (by omega), rfl⟩
  · exact ⟨.four (by omega) (by omega) (by omega) (by omega) (by omega) (by omega), rfl⟩

theorem push_whole (h : p.push b = .whole c) :
    p.low ≤ b.toNat ∧ b.toNat ≤ p.high ∧ p.owed ≤ 1 ∧ c = Char.ofNat (p.bits * 64 + (b.toNat - 0x80)) := by
  simp only [Partial.push] at h
  split_ifs at h with hrange howed
  simp only [Bool.and_eq_true, decide_eq_true_eq] at hrange
  exact ⟨hrange.1, hrange.2, howed, (Start.whole.inj h).symm⟩

theorem push_part (h : p.push b = .part q) : p.low ≤ b.toNat ∧ b.toNat ≤ p.high ∧ 1 < p.owed ∧
    q = ⟨b :: p.seen, p.owed - 1, 0x80, 0xBF, p.bits * 64 + (b.toNat - 0x80)⟩ := by
  simp only [Partial.push] at h
  split_ifs at h with hrange howed
  simp only [Bool.and_eq_true, decide_eq_true_eq] at hrange
  exact ⟨hrange.1, hrange.2, by omega, (Start.part.inj h).symm⟩

theorem Partial.Under.push (hp : p.Under) (h : p.push b = .part q) : q.Under := by
  obtain ⟨hlow, hhigh, howed, rfl⟩ := push_part h
  cases hp <;> dsimp only at hlow hhigh howed ⊢
  case two | three₂ | four₃ => exact absurd howed (Nat.lt_irrefl 1)
  case three => exact .three₂ (by omega) (by omega) (by omega) (by omega)
  case four => exact .four₂ (by omega) (by omega) (by omega) (by omega)
  case four₂ => exact .four₃ (by omega) (by omega) (by omega) (by omega) (by omega)

theorem Partial.Under.spelling (hp : p.Under) (h : p.push b = .whole c) :
    String.utf8EncodeChar c = p.seen.reverse ++ [b] := by
  obtain ⟨hlow, hhigh, howed, hc⟩ := push_whole h
  rw [hc]
  cases hp <;> dsimp only at hlow hhigh howed ⊢
  case two => exact spelling_two (by omega) (by omega) (by omega) (by omega)
  case three₂ => exact spelling_three (by omega) (by omega) (by omega) (by omega) (by omega)
  case four₃ => exact spelling_four (by omega) (by omega) (by omega) (by omega) (by omega) (by omega)
  case three | four | four₂ => exact absurd howed (by decide)

theorem Partial.Under.seen_ne_nil (hp : p.Under) : p.seen ≠ [] := by
  cases hp <;> exact List.cons_ne_nil _ _

end Spelling

section Chunks

variable {octets : List UInt8} {cs : List Char} {p : Option Partial}

theorem chunksFrom_eq_append (done : List Chunk) (p : Option Partial) (octets : List UInt8) :
    chunksFrom done p octets = done.reverse ++ chunksFrom [] p octets := by
  induction octets generalizing done p with
  | nil => cases p <;> simp [chunksFrom]
  | cons b octets ih =>
    have hmore : ∀ new p, chunksFrom (new ++ done) p octets = done.reverse ++ chunksFrom new p octets := by
      intro new p
      rw [ih, ih new, List.reverse_append, List.append_assoc]
    have hstart : ∀ new, chunksFrom (new ++ done) none (b :: octets) =
        done.reverse ++ chunksFrom new none (b :: octets) := by
      intro new
      cases hb : startAt b with
      | whole c => simp only [chunksFrom, hb]; exact hmore (.whole c :: new) none
      | part q => simp only [chunksFrom, hb]; exact hmore new (some q)
      | bad => simp only [chunksFrom, hb]; exact hmore (.broken [b] :: new) none
    cases p with
    | none => exact hstart []
    | some p =>
      cases hb : p.push b with
      | whole c => simp only [chunksFrom, hb]; exact hmore [.whole c] none
      | part q => simp only [chunksFrom, hb]; exact hmore [] (some q)
      | bad =>
        -- what was under way is given up, and the octet is looked at again
        have hagain : ∀ done, chunksFrom done (some p) (b :: octets) =
            chunksFrom (.broken p.seen.reverse :: done) none (b :: octets) := by
          intro done
          simp only [chunksFrom, hb]
        rw [hagain, hagain]
        exact hstart [.broken p.seen.reverse]

theorem glyphs_of_broken {l : List UInt8} (hl : l ≠ []) (new : List Chunk) :
    (chunksFrom (new ++ [.broken l]) p octets).flatMap Chunk.glyphs ≠ cs.map .char := by
  obtain ⟨b, l, rfl⟩ := List.exists_cons_of_ne_nil hl
  rw [chunksFrom_eq_append, List.reverse_append, List.reverse_singleton, List.singleton_append,
    List.cons_append, List.flatMap_cons, Chunk.glyphs, List.map_cons, List.cons_append]
  intro h
  cases cs with
  | nil => cases h
  | cons c cs => cases (List.cons.inj h).1

theorem glyphs_of_whole {c : Char}
    (h : (chunksFrom [.whole c] none octets).flatMap Chunk.glyphs = cs.map .char) :
    ∃ rest, cs = c :: rest ∧ (chunksFrom [] none octets).flatMap Chunk.glyphs = rest.map .char := by
  rw [chunksFrom_eq_append, List.reverse_singleton, List.singleton_append, List.flatMap_cons, Chunk.glyphs,
    List.singleton_append] at h
  cases cs with
  | nil => cases h
  | cons x rest =>
    obtain ⟨hx, hrest⟩ := List.cons.inj h
    obtain rfl := Glyph.char.inj hx
    exact ⟨rest, rfl, hrest⟩

theorem octets_of_glyphs (hp : ∀ q ∈ p, q.Under)
    (h : (chunksFrom [] p octets).flatMap Chunk.glyphs = cs.map .char) :
    (p.elim [] fun q => q.seen.reverse) ++ octets = cs.flatMap String.utf8EncodeChar := by
  induction octets generalizing p cs with
  | nil =>
    cases p with
    | none =>
      obtain rfl : cs = [] := by simpa [chunksFrom] using h.symm
      rfl
    | some q =>
      -- a piece at the end makes no character
      have hq : q.seen.reverse ≠ [] := by simpa using (hp q rfl).seen_ne_nil
      exact absurd h (@glyphs_of_broken [] cs none _ hq [])
  | cons b octets ih =>
    cases p with
    | none =>
      rw [chunksFrom] at h
      cases hb : startAt b with
      | whole c =>
        rw [hb] at h
        obtain ⟨rest, rfl, hrest⟩ := glyphs_of_whole h
        rw [List.flatMap_cons, startAt_whole hb, ← ih (p := none) (by simp) hrest]
        rfl
      | part q =>
        rw [hb] at h
        obtain ⟨hunder, hseen⟩ := startAt_part hb
        have hrest := ih (p := some q) (fun q' hq' => Option.some.inj hq' ▸ hunder) h
        rwa [Option.elim_some, hseen] at hrest
      | bad =>
        rw [hb] at h
        exact absurd h (glyphs_of_broken (List.cons_ne_nil b []) [])
    | some p =>
      have hunder := hp p rfl
      rw [chunksFrom] at h
      cases hb : p.push b with
      | whole c =>
        rw [hb] at h
        obtain ⟨rest, rfl, hrest⟩ := glyphs_of_whole h
        rw [List.flatMap_cons, hunder.spelling hb, ← ih (p := none) (by simp) hrest]
        simp
      | part q =>
        rw [hb] at h
        have hrest := ih (p := some q) (fun q' hq' => Option.some.inj hq' ▸ hunder.push hb) h
        obtain ⟨-, -, -, rfl⟩ := push_part hb
        simpa using hrest
      | bad =>
        rw [hb] at h
        have hseen : p.seen.reverse ≠ [] := by simpa using hunder.seen_ne_nil
        dsimp only at h
        split at h
        · exact absurd h (glyphs_of_broken hseen [_])
        · exact absurd h (glyphs_of_broken hseen [])
        · exact absurd h (glyphs_of_broken hseen [_])

theorem eq_toUTF8_of_glyphs {b : ByteArray} (h : glyphs b = cs.map .char) :
    b = (String.ofList cs).toUTF8 := by
  unfold glyphs at h
  split at h
  · rename_i s hs
    obtain rfl : s.toList = cs := (List.map_inj_right fun _ _ => Glyph.char.inj).mp h
    rw [String.ofList_toList, toUTF8_of_fromUTF8? hs]
  · have hoctets := octets_of_glyphs (p := none) (by simp) h
    apply ByteArray.ext
    apply Array.ext'
    rw [octets_toUTF8, String.toList_ofList]
    exact hoctets

end Chunks

end EndpointGate.Text
