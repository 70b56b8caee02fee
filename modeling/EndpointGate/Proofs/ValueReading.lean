import EndpointGate.Proofs.LiteralReading

/-! A text is read as a value exactly if the grammar has it as JSON for that value, with lists and objects
nested 127 deep at most. One way the induction is on fuel, the other way on how the value is written. -/

namespace EndpointGate.Json

open Text (Glyph)
open Sql (bind_eq_ok)

variable {c c' : Cursor} {t u v r : List Glyph} {x : Char} {j : Json} {fuel d : Nat}

section Blanks

theorem Cursor.rest_skipSpaceFrom (h : Blanks t u)
    (hu : ∀ x v, u = .char x :: v → x ∉ [' ', '\n', '\t', '\r']) (pos : Position) :
    (skipSpaceFrom pos t).rest = u := by
  induction h generalizing pos with
  | @none r =>
    cases r with
    | nil => rfl
    | cons g v =>
      have hg : isSpace g = false := by
        cases g with
        | char x => exact Bool.eq_false_iff.mpr fun h => hu x v rfl (isSpace_char.mp h)
        | stray b => simp [isSpace]
      rw [skipSpaceFrom, if_neg (by simp [hg])]
  | @more x t r hx _ ih =>
    rw [skipSpaceFrom, if_pos (isSpace_char.mpr hx)]
    exact ih hu _

theorem Cursor.rest_skipSpace (h : Blanks c.rest (.char x :: u)) (hx : x ∉ [' ', '\n', '\t', '\r']) :
    c.skipSpace.rest = .char x :: u :=
  rest_skipSpaceFrom h (fun _ _ hy => Text.Glyph.char.inj (List.cons.inj hy).1 ▸ hx) c.pos

theorem Blanks.trans (h : Blanks t u) (h' : Blanks u v) : Blanks t v := by
  induction h with
  | none => exact h'
  | more hx _ ih => exact .more hx (ih h')

theorem Blanks.le (h : Blanks t u) : u.length ≤ t.length := by
  induction h with
  | none => exact Nat.le_refl _
  | more _ _ ih => exact Nat.le_succ_of_le ih

theorem Blanks.subset (h : Blanks t u) : u ⊆ t := by
  induction h with
  | none => exact List.Subset.refl _
  | more _ _ ih => exact List.subset_cons_of_subset _ ih

theorem Blanks.ends (h : Blanks t u) (hu : Ends u) : Ends t := by
  induction h with
  | none => exact hu
  | more hx _ _ =>
    intro y v hy
    obtain rfl := Text.Glyph.char.inj (List.cons.inj hy).1
    simp only [List.mem_cons, List.not_mem_nil, or_false] at hx
    obtain rfl | rfl | rfl | rfl := hx <;> decide

end Blanks

section Words

theorem rest_of_readWord {xs : List Char} (h : readWord xs c = .ok c') :
    c.rest = xs.map .char ++ c'.rest := by
  induction xs generalizing c with
  | nil => rw [Except.ok.inj h]; rfl
  | cons x xs ih =>
    unfold readWord at h
    split_ifs at h with hend hpeek
    rw [Cursor.rest_eq_of_peek hpeek, ih h]
    rfl

theorem readWord_of_rest {xs : List Char} (h : c.rest = xs.map .char ++ r) :
    ∃ c', readWord xs c = .ok c' ∧ c'.rest = r := by
  induction xs generalizing c with
  | nil => exact ⟨c, rfl, h⟩
  | cons x xs ih =>
    have hpeek : c.peek = some x := Cursor.peek_eq_some_iff.mpr ⟨_, h⟩
    have hend : c.atEnd = false := by simp [Cursor.atEnd, h]
    obtain ⟨c', hc', hrest⟩ := ih (Cursor.rest_next h)
    exact ⟨c', by simp [readWord, hend, hpeek, hc'], hrest⟩

def Lead.Begins : Lead → Option Char → Prop
  | .word rest value, p => (p, rest, value) ∈ [(some 'n', ['u', 'l', 'l'], null),
      (some 't', ['r', 'u', 'e'], .bool true), (some 'f', ['a', 'l', 's', 'e'], .bool false)]
  | .number true, p => p = some '-'
  | .number false, p => ∃ x, p = some x ∧ x.isDigit
  | .string, p => p = some '"'
  | .list, p => p = some '['
  | .object, p => p = some '\x7b'
  | .other, _ => True

theorem begins_lead (c : Cursor) : (lead c).Begins c.peek := by
  unfold lead
  split
  · rename_i h; simp [h, Lead.Begins]
  · rename_i h; simp [h, Lead.Begins]
  · rename_i h; simp [h, Lead.Begins]
  · rename_i h; exact h
  · rename_i h; exact h
  · rename_i h; exact h
  · rename_i h; exact h
  · rename_i x _ _ _ _ _ _ _ h
    by_cases hx : x.isDigit
    · rw [if_pos hx]
      exact ⟨x, h, hx⟩
    · rw [if_neg hx]
      trivial
  · trivial

theorem lead_of_digit (h : c.peek = some x) (hx : x.isDigit) : lead c = .number false := by
  have hne : x ≠ 'n' ∧ x ≠ 't' ∧ x ≠ 'f' ∧ x ≠ '-' ∧ x ≠ '"' ∧ x ≠ '[' ∧ x ≠ '\x7b' := by
    refine ⟨?_, ?_, ?_, ?_, ?_, ?_, ?_⟩ <;>
    · rintro rfl
      revert hx
      decide
  unfold lead
  simp only [h]
  split <;> simp_all

theorem valueAt_of_readScalar (h : readScalar fuel .any c = .ok (j, c')) : ValueAt d c.rest j c'.rest := by
  have hpeek := begins_lead c
  unfold readScalar at h
  cases hlead : lead c with
  | word rest value =>
    simp only [hlead, Lead.Begins, List.mem_cons, Prod.mk.injEq, List.not_mem_nil, or_false] at h hpeek
    obtain ⟨c₁, hw, h⟩ := bind_eq_ok h
    obtain ⟨rfl, rfl⟩ := Prod.mk.inj (Except.ok.inj h)
    have hrest := rest_of_readWord hw
    obtain ⟨hp, rfl, rfl⟩ | ⟨hp, rfl, rfl⟩ | ⟨hp, rfl, rfl⟩ := hpeek
    · rw [Cursor.rest_eq_of_peek hp, hrest]; exact .null
    · rw [Cursor.rest_eq_of_peek hp, hrest]; exact .true
    · rw [Cursor.rest_eq_of_peek hp, hrest]; exact .false
  | number negative =>
    have hsign : SignAt c.rest negative (if negative then c.next else c).rest := by
      rw [hlead] at hpeek
      cases negative with
      | true => exact Cursor.rest_eq_of_peek hpeek ▸ .minus
      | false => exact .none
    cases negative <;>
    · simp only [hlead] at h
      obtain ⟨⟨value, after⟩, hn, h⟩ := bind_eq_ok h
      obtain ⟨rfl, rfl⟩ := Prod.mk.inj (Except.ok.inj h)
      obtain ⟨m, hm, hvalue⟩ := numeralAt_of_readNumber hsign hn
      exact .number hm hvalue
  | string =>
    simp only [hlead] at h hpeek
    obtain ⟨⟨s, c₁⟩, hs, h⟩ := bind_eq_ok h
    obtain ⟨rfl, rfl⟩ := Prod.mk.inj (Except.ok.inj h)
    obtain ⟨cs, hcs, rfl⟩ := charsAt_of_readString hs
    rw [Cursor.rest_eq_of_peek hpeek]
    exact .string hcs
  | _ =>
    simp only [hlead] at h
    cases h

def Opens (x : Char) : Prop := x ∈ ['n', 't', 'f', '-', '"', '[', '\x7b'] ∨ x.isDigit

theorem NumeralAt.opens {m : Numeral} (h : NumeralAt t m r) : ∃ x u, t = .char x :: u ∧ Opens x := by
  obtain ⟨-, u, v, w, hs, hdigits, -, -⟩ := h
  generalize m.negative = negative at hs
  cases hs with
  | none =>
    obtain ⟨x, u, ht, hx, -⟩ := hdigits.head
    exact ⟨x, u, ht, .inr hx⟩
  | minus => exact ⟨_, _, rfl, .inl (by decide)⟩

theorem ValueAt.opens (h : ValueAt d t j r) : ∃ x u, t = .char x :: u ∧ Opens x := by
  cases h with
  | null => exact ⟨_, _, rfl, .inl (by decide)⟩
  | true => exact ⟨_, _, rfl, .inl (by decide)⟩
  | false => exact ⟨_, _, rfl, .inl (by decide)⟩
  | number hm _ => exact hm.opens
  | string _ => exact ⟨_, _, rfl, .inl (by decide)⟩
  | list _ => exact ⟨_, _, rfl, .inl (by decide)⟩
  | object _ => exact ⟨_, _, rfl, .inl (by decide)⟩

theorem Opens.ne {x y : Char} (h : Opens x) (hy : ¬Opens y) : x ≠ y := by
  rintro rfl
  exact hy h

instance (x : Char) : Decidable (Opens x) := inferInstanceAs (Decidable (_ ∨ _))

theorem Opens.ascii {x : Char} (h : Opens x) : 0x20 < x.toNat ∧ x.toNat < 0x80 := by
  obtain h | h := h
  · simp only [List.mem_cons, List.not_mem_nil, or_false] at h
    obtain rfl | rfl | rfl | rfl | rfl | rfl | rfl := h <;> decide
  · rw [Char.isDigit_iff_toNat] at h
    change 48 ≤ x.toNat ∧ x.toNat ≤ 57 at h
    omega

theorem Opens.not_blank {x : Char} (h : Opens x) : x ∉ [' ', '\n', '\t', '\r'] := by
  intro hx
  simp only [List.mem_cons, List.not_mem_nil, or_false] at hx
  obtain rfl | rfl | rfl | rfl := hx <;> exact absurd h (by decide)

theorem readScalar_of_word {rest : List Char} {value : Json} (hlead : lead c = .word rest value)
    (h : c.next.rest = rest.map .char ++ r) :
    ∃ c', readScalar fuel .any c = .ok (value, c') ∧ c'.rest = r := by
  obtain ⟨c', hc', hrest⟩ := readWord_of_rest h
  refine ⟨c', ?_, hrest⟩
  unfold readScalar
  simp only [hlead, hc']
  rfl

theorem readScalar_of_number {negative : Bool} (hlead : lead c = .number negative)
    (h : readNumber negative (if negative then c.next else c) = .ok (j, c')) :
    readScalar fuel .any c = .ok (j, c') := by
  unfold readScalar
  cases negative <;>
  · simp only [hlead, if_true, Bool.false_eq_true, if_false] at h ⊢
    rw [h]
    rfl

theorem readScalar_of_string {s : String} (hlead : lead c = .string)
    (h : readString fuel c.next = .ok (s, c')) :
    readScalar fuel .any c = .ok (.str s, c') := by
  unfold readScalar
  simp only [hlead, h]
  rfl

end Words

section Brackets

def ItemNext (first : Bool) (t : List Glyph) (u : List Glyph) : Prop :=
  if first then Blanks t u else ∃ v, Blanks t (.char ',' :: v) ∧ Blanks v u

theorem blanks_of_nextItem_none {first : Bool} (h : nextItem first c = .ok none) :
    Blanks c.rest (.char ']' :: c.skipSpace.next.rest) := by
  have hb := Cursor.blanks_skipSpace c
  unfold nextItem at h
  dsimp only at h
  by_cases hclose : c.skipSpace.peek = some ']'
  · rwa [Cursor.rest_eq_of_peek hclose] at hb
  · split_ifs at h <;> cases h

theorem itemNext_of_nextItem {first : Bool} (h : nextItem first c = .ok (some c')) :
    ItemNext first c.rest c'.rest := by
  have hb := Cursor.blanks_skipSpace c
  unfold nextItem at h
  dsimp only at h
  split_ifs at h with hend hclose hfirst hcomma
  · cases h
  · obtain rfl := Option.some.inj (Except.ok.inj h)
    rwa [ItemNext, if_pos hfirst]
  · obtain rfl := Option.some.inj (Except.ok.inj h)
    rw [ItemNext, if_neg hfirst]
    rw [Cursor.rest_eq_of_peek hcomma] at hb
    exact ⟨_, hb, Cursor.blanks_skipSpace _⟩

theorem blanks_of_nextKey_none {first : Bool} (h : nextKey first c = .ok none) :
    Blanks c.rest (.char '\x7d' :: c.skipSpace.next.rest) := by
  have hb := Cursor.blanks_skipSpace c
  unfold nextKey at h
  dsimp only at h
  by_cases hclose : c.skipSpace.peek = some '\x7d'
  · rwa [Cursor.rest_eq_of_peek hclose] at hb
  · split_ifs at h <;> cases h

theorem itemNext_of_nextKey {first : Bool} (h : nextKey first c = .ok (some c')) :
    ItemNext first c.rest (.char '"' :: c'.rest) := by
  have hb := Cursor.blanks_skipSpace c
  unfold nextKey at h
  dsimp only at h
  split_ifs at h with hend hclose hfirst hquote hcomma hend' hquote'
  · cases h
  · obtain rfl := Option.some.inj (Except.ok.inj h)
    rwa [ItemNext, if_pos hfirst, ← Cursor.rest_eq_of_peek hquote]
  · obtain rfl := Option.some.inj (Except.ok.inj h)
    rw [ItemNext, if_neg hfirst]
    rw [Cursor.rest_eq_of_peek hcomma] at hb
    exact ⟨_, hb, Cursor.rest_eq_of_peek hquote' ▸ Cursor.blanks_skipSpace _⟩

theorem blanks_of_readColon (h : readColon c = .ok c') : Blanks c.rest (.char ':' :: c'.rest) := by
  have hb := Cursor.blanks_skipSpace c
  unfold readColon at h
  dsimp only at h
  split_ifs at h with hend hcolon
  obtain rfl := Except.ok.inj h
  rwa [← Cursor.rest_eq_of_peek hcolon]

theorem blanks_of_readKey_none {first : Bool} (h : readKey fuel first c = .ok none) :
    Blanks c.rest (.char '\x7d' :: c.skipSpace.next.rest) := by
  unfold readKey at h
  split at h
  · cases h
  · rename_i hkey
    exact blanks_of_nextKey_none hkey
  · split at h <;> cases h

theorem charsAt_of_readKey {first : Bool} {key : String}
    (h : readKey fuel first c = .ok (some (key, c'))) :
    ∃ u cs, ItemNext first c.rest (.char '"' :: u) ∧ CharsAt u cs c'.rest ∧ key = String.ofList cs := by
  unfold readKey at h
  split at h
  · cases h
  · cases h
  · rename_i c₁ hkey
    split at h
    · cases h
    · rename_i key' c₂ hs
      obtain ⟨rfl, rfl⟩ := Prod.mk.inj (Option.some.inj (Except.ok.inj h))
      obtain ⟨cs, hcs, rfl⟩ := charsAt_of_readString hs
      exact ⟨_, cs, itemNext_of_nextKey hkey, hcs, rfl⟩

theorem nextItem_of_close (first : Bool) (h : Blanks c.rest (.char ']' :: r)) :
    nextItem first c = .ok none ∧ c.skipSpace.next.rest = r := by
  have hrest := Cursor.rest_skipSpace h (by decide)
  have hpeek : c.skipSpace.peek = some ']' := Cursor.peek_eq_some_iff.mpr ⟨r, hrest⟩
  exact ⟨by simp [nextItem, Cursor.atEnd, hrest, hpeek], Cursor.rest_next hrest⟩

theorem nextItem_first (h : Blanks c.rest (.char x :: u)) (hx : Opens x) :
    nextItem true c = .ok (some c.skipSpace) ∧ c.skipSpace.rest = .char x :: u := by
  have hrest := Cursor.rest_skipSpace h hx.not_blank
  have hpeek : c.skipSpace.peek = some x := Cursor.peek_eq_some_iff.mpr ⟨u, hrest⟩
  have hx' : x ≠ ']' := hx.ne (by decide)
  exact ⟨by simp [nextItem, Cursor.atEnd, hrest, hpeek, hx'], hrest⟩

theorem nextItem_more (h : Blanks c.rest (.char ',' :: v)) (h' : Blanks v (.char x :: u)) (hx : Opens x) :
    ∃ c₁, nextItem false c = .ok (some c₁) ∧ c₁.rest = .char x :: u := by
  have hrest := Cursor.rest_skipSpace h (by decide)
  have hpeek : c.skipSpace.peek = some ',' := Cursor.peek_eq_some_iff.mpr ⟨v, hrest⟩
  have hrest' : c.skipSpace.next.skipSpace.rest = .char x :: u :=
    Cursor.rest_skipSpace (Cursor.rest_next hrest ▸ h') hx.not_blank
  have hpeek' : c.skipSpace.next.skipSpace.peek = some x := Cursor.peek_eq_some_iff.mpr ⟨u, hrest'⟩
  have hx' : x ≠ ']' := hx.ne (by decide)
  exact ⟨_, by simp [nextItem, Cursor.atEnd, hrest, hpeek, hrest', hpeek', hx'], hrest'⟩

theorem nextKey_of_close (first : Bool) (h : Blanks c.rest (.char '\x7d' :: r)) :
    nextKey first c = .ok none ∧ c.skipSpace.next.rest = r := by
  have hrest := Cursor.rest_skipSpace h (by decide)
  have hpeek : c.skipSpace.peek = some '\x7d' := Cursor.peek_eq_some_iff.mpr ⟨r, hrest⟩
  exact ⟨by simp [nextKey, Cursor.atEnd, hrest, hpeek], Cursor.rest_next hrest⟩

theorem nextKey_first (h : Blanks c.rest (.char '"' :: u)) :
    ∃ c₁, nextKey true c = .ok (some c₁) ∧ c₁.rest = u := by
  have hrest := Cursor.rest_skipSpace h (by decide)
  have hpeek : c.skipSpace.peek = some '"' := Cursor.peek_eq_some_iff.mpr ⟨u, hrest⟩
  exact ⟨_, by simp [nextKey, Cursor.atEnd, hrest, hpeek], Cursor.rest_next hrest⟩

theorem nextKey_more (h : Blanks c.rest (.char ',' :: v)) (h' : Blanks v (.char '"' :: u)) :
    ∃ c₁, nextKey false c = .ok (some c₁) ∧ c₁.rest = u := by
  have hrest := Cursor.rest_skipSpace h (by decide)
  have hpeek : c.skipSpace.peek = some ',' := Cursor.peek_eq_some_iff.mpr ⟨v, hrest⟩
  have hrest' : c.skipSpace.next.skipSpace.rest = .char '"' :: u :=
    Cursor.rest_skipSpace (Cursor.rest_next hrest ▸ h') (by decide)
  have hpeek' : c.skipSpace.next.skipSpace.peek = some '"' := Cursor.peek_eq_some_iff.mpr ⟨u, hrest'⟩
  exact ⟨_, by simp [nextKey, Cursor.atEnd, hrest, hpeek, hrest', hpeek'], Cursor.rest_next hrest'⟩

theorem readColon_of_blanks (h : Blanks c.rest (.char ':' :: r)) :
    ∃ c', readColon c = .ok c' ∧ c'.rest = r := by
  have hrest := Cursor.rest_skipSpace h (by decide)
  have hpeek : c.skipSpace.peek = some ':' := Cursor.peek_eq_some_iff.mpr ⟨r, hrest⟩
  exact ⟨_, by simp [readColon, Cursor.atEnd, hrest, hpeek], Cursor.rest_next hrest⟩

theorem readKey_of_nextKey {first : Bool} {c₁ : Cursor} {cs : List Char}
    (hkey : nextKey first c = .ok (some c₁)) (hcs : CharsAt c₁.rest cs r)
    (hfuel : c₁.rest.length ≤ fuel) :
    ∃ c', readKey fuel first c = .ok (some (String.ofList cs, c')) ∧ c'.rest = r := by
  obtain ⟨c', hread, hrest⟩ := readString_of_charsAt hcs hfuel
  refine ⟨c', ?_, hrest⟩
  unfold readKey
  rw [hkey]
  dsimp only
  rw [hread]
  rfl

end Brackets

section Soundness

/-- Reading a value of any shape under fuel: what is read was written. -/
structure Sound (fuel : Nat) : Prop where
  value : ∀ {d : Nat} {c c' : Cursor} {j : Json}, readShape fuel (d + 1) .any c = .ok (j, c') →
    ∃ t, Blanks c.rest t ∧ ValueAt d t j c'.rest
  list : ∀ {d : Nat} {c c' : Cursor} {j : Json}, readItems fuel d .any c = .ok (j, c') →
    ∃ e js, d = e + 1 ∧ j = .arr js ∧ ItemsAt e c.next.rest js c'.rest
  items : ∀ {d : Nat} {done : List Json} {c c' : Cursor} {j : Json},
    readItemsFrom fuel (d + 1) .any done c = .ok (j, c') → ∃ js, j = .arr (done.reverse ++ js) ∧
      if done.isEmpty then ItemsAt d c.rest js c'.rest else MoreItemsAt d c.rest js c'.rest
  object : ∀ {d : Nat} {c c' : Cursor} {j : Json}, readEntries fuel d .any c = .ok (j, c') →
    ∃ e ms, d = e + 1 ∧ j = .obj (Fields.ofList ms) ∧ MembersAt e c.next.rest ms c'.rest
  members : ∀ {d : Nat} {first : Bool} {done : Fields Json} {c c' : Cursor} {j : Json},
    readEntriesFrom fuel (d + 1) .any first done c = .ok (j, c') →
      ∃ ms, j = .obj (ms.foldl (fun fields m => Fields.insert m.1 m.2 fields) done) ∧
        if first then MembersAt d c.rest ms c'.rest else MoreMembersAt d c.rest ms c'.rest

theorem sound_items {fuel : Nat} (ih : Sound fuel) {d : Nat} {done : List Json} {c c' : Cursor} {j : Json}
    (h : readItemsFrom (fuel + 1) (d + 1) .any done c = .ok (j, c')) :
    ∃ js, j = .arr (done.reverse ++ js) ∧
      if done.isEmpty then ItemsAt d c.rest js c'.rest else MoreItemsAt d c.rest js c'.rest := by
  unfold readItemsFrom at h
  split at h
  · cases h
  · rename_i hnext
    obtain ⟨rfl, rfl⟩ := Prod.mk.inj (Except.ok.inj h)
    refine ⟨[], by simp, ?_⟩
    split_ifs
    · exact .none (blanks_of_nextItem_none hnext)
    · exact .none (blanks_of_nextItem_none hnext)
  · rename_i c₁ hnext
    have hbefore := itemNext_of_nextItem hnext
    split at h
    · cases h
    · rename_i v c₂ hv
      obtain ⟨t, hb, hvalue⟩ := ih.value hv
      obtain ⟨js, rfl, hmore⟩ := ih.items h
      refine ⟨v :: js, by simp, ?_⟩
      simp only [List.isEmpty_cons, Bool.false_eq_true, if_false] at hmore
      cases done with
      | nil => exact .some (Blanks.trans hbefore hb) hvalue hmore
      | cons _ _ =>
        obtain ⟨u, hcomma, hb'⟩ := hbefore
        exact .some hcomma (hb'.trans hb) hvalue hmore

theorem sound_members {fuel : Nat} (ih : Sound fuel) {d : Nat} {first : Bool} {done : Fields Json}
    {c c' : Cursor} {j : Json} (h : readEntriesFrom (fuel + 1) (d + 1) .any first done c = .ok (j, c')) :
    ∃ ms, j = .obj (ms.foldl (fun fields m => Fields.insert m.1 m.2 fields) done) ∧
      if first then MembersAt d c.rest ms c'.rest else MoreMembersAt d c.rest ms c'.rest := by
  unfold readEntriesFrom at h
  split at h
  · cases h
  · rename_i hkey
    obtain ⟨rfl, rfl⟩ := Prod.mk.inj (Except.ok.inj h)
    refine ⟨[], rfl, ?_⟩
    split_ifs
    · exact .none (blanks_of_readKey_none hkey)
    · exact .none (blanks_of_readKey_none hkey)
  · rename_i key c₁ hkey
    obtain ⟨u, cs, hbefore, hcs, rfl⟩ := charsAt_of_readKey hkey
    split at h
    · cases h
    · rename_i c₂ hcolon
      split at h
      · cases h
      · rename_i v c₃ hv
        obtain ⟨t, hb, hvalue⟩ := ih.value hv
        obtain ⟨ms, rfl, hmore⟩ := ih.members h
        have hmember := MemberAt.mk hcs (blanks_of_readColon hcolon) hb hvalue
        refine ⟨(String.ofList cs, v) :: ms, rfl, ?_⟩
        cases first with
        | true => exact .some hbefore hmember hmore
        | false =>
          obtain ⟨w, hcomma, hb'⟩ := hbefore
          exact .some hcomma hb' hmember hmore

theorem sound_value {fuel : Nat} (ih : Sound fuel) {d : Nat} {c c' : Cursor} {j : Json}
    (h : readShape (fuel + 1) (d + 1) .any c = .ok (j, c')) :
    ∃ t, Blanks c.rest t ∧ ValueAt d t j c'.rest := by
  refine ⟨c.skipSpace.rest, Cursor.blanks_skipSpace c, ?_⟩
  have hpeek := begins_lead c.skipSpace
  unfold readShape at h
  dsimp only at h
  split_ifs at h with hend
  cases hlead : lead c.skipSpace with
  | list =>
    simp only [hlead, Nat.add_sub_cancel] at h hpeek
    obtain ⟨e, js, rfl, rfl, hjs⟩ := ih.list h
    rw [Cursor.rest_eq_of_peek hpeek]
    exact .list hjs
  | object =>
    simp only [hlead, Nat.add_sub_cancel] at h hpeek
    obtain ⟨e, ms, rfl, rfl, hms⟩ := ih.object h
    rw [Cursor.rest_eq_of_peek hpeek]
    exact .object hms
  | _ =>
    simp only [hlead] at h
    exact valueAt_of_readScalar h

theorem sound_list {fuel : Nat} (ih : Sound fuel) {d : Nat} {c c' : Cursor} {j : Json}
    (h : readItems (fuel + 1) d .any c = .ok (j, c')) :
    ∃ e js, d = e + 1 ∧ j = .arr js ∧ ItemsAt e c.next.rest js c'.rest := by
  unfold readItems at h
  split_ifs at h with hd
  obtain ⟨e, rfl⟩ := Nat.exists_eq_succ_of_ne_zero hd
  obtain ⟨js, rfl, hjs⟩ := ih.items h
  exact ⟨e, js, rfl, rfl, hjs⟩

theorem sound_object {fuel : Nat} (ih : Sound fuel) {d : Nat} {c c' : Cursor} {j : Json}
    (h : readEntries (fuel + 1) d .any c = .ok (j, c')) :
    ∃ e ms, d = e + 1 ∧ j = .obj (Fields.ofList ms) ∧ MembersAt e c.next.rest ms c'.rest := by
  unfold readEntries at h
  split_ifs at h with hd
  obtain ⟨e, rfl⟩ := Nat.exists_eq_succ_of_ne_zero hd
  obtain ⟨ms, rfl, hms⟩ := ih.members h
  exact ⟨e, ms, rfl, rfl, hms⟩

theorem sound (fuel : Nat) : Sound fuel := by
  induction fuel with
  | zero =>
    exact ⟨fun h => by simp [readShape] at h, fun h => by simp [readItems] at h,
      fun h => by simp [readItemsFrom] at h, fun h => by simp [readEntries] at h,
      fun h => by simp [readEntriesFrom] at h⟩
  | succ fuel ih => exact ⟨sound_value ih, sound_list ih, sound_items ih, sound_object ih, sound_members ih⟩

theorem isText_of_readGlyphs {text : List Glyph} (h : readGlyphs .any text = .ok j) : IsText 127 text j := by
  obtain ⟨⟨v, c⟩, hread, h⟩ := bind_eq_ok h
  obtain ⟨t, hb, hv⟩ := (sound _).value hread
  dsimp only at h
  split_ifs at h with hend
  obtain rfl := Except.ok.inj h
  exact ⟨t, c.rest, hb, hv, Cursor.atEnd_iff.mp hend ▸ Cursor.blanks_skipSpace c⟩

end Soundness

section Ahead

theorem ends_cons (hx : x.isDigit = false ∧ x ∉ ['.', 'e', 'E']) : Ends (.char x :: t) := by
  intro y v hy
  obtain rfl := Text.Glyph.char.inj (List.cons.inj hy).1
  exact hx

theorem MoreItemsAt.ends {js : List Json} (h : MoreItemsAt d t js r) : Ends t := by
  cases h with
  | none hb => exact hb.ends (ends_cons (by decide))
  | some hb _ _ _ => exact hb.ends (ends_cons (by decide))

theorem MoreMembersAt.ends {ms : List (String × Json)} (h : MoreMembersAt d t ms r) : Ends t := by
  cases h with
  | none hb => exact hb.ends (ends_cons (by decide))
  | some hb _ _ _ => exact hb.ends (ends_cons (by decide))

theorem readShape_any (depth : Nat) (h : c.skipSpace.rest = .char x :: t) :
    readShape (fuel + 1) depth .any c = match lead c.skipSpace with
      | .list => readItems fuel (depth - 1) .any c.skipSpace
      | .object => readEntries fuel (depth - 1) .any c.skipSpace
      | _ => readScalar fuel .any c.skipSpace := by
  have hend : c.skipSpace.atEnd = false := by simp [Cursor.atEnd, h]
  unfold readShape
  simp only [hend, Bool.false_eq_true, if_false]
  cases lead c.skipSpace <;> rfl

theorem lead_of_rest (h : c.rest = .char x :: t) : lead c = lead ⟨[.char x], c.pos⟩ := by
  have hpeek : c.peek = (⟨[.char x], c.pos⟩ : Cursor).peek := Cursor.peek_eq_some_iff.mpr ⟨t, h⟩
  simp only [lead, hpeek]

end Ahead

section Lengths

theorem DigitsAt.lt {ds : List Nat} (h : DigitsAt t ds r) : r.length < t.length := by
  induction h with
  | last _ => exact Nat.lt_succ_self _
  | more _ _ ih => exact Nat.lt_succ_of_lt ih

theorem FractionAt.le {ds : List Nat} (h : FractionAt t ds r) : r.length ≤ t.length := by
  cases h with
  | none => exact Nat.le_refl _
  | some h => exact Nat.le_of_lt (Nat.lt_succ_of_lt h.lt)

theorem ExponentAt.le {e : Option (Bool × List Nat)} (h : ExponentAt t e r) : r.length ≤ t.length := by
  cases h with
  | none => exact Nat.le_refl _
  | plain _ h => exact Nat.le_of_lt (Nat.lt_succ_of_lt h.lt)
  | signed _ _ h => exact Nat.le_of_lt (Nat.lt_succ_of_lt (Nat.lt_succ_of_lt h.lt))

theorem SignAt.le {b : Bool} (h : SignAt t b r) : r.length ≤ t.length := by
  cases h with
  | none => exact Nat.le_refl _
  | minus => exact Nat.le_succ _

theorem NumeralAt.lt {m : Numeral} (h : NumeralAt t m r) : r.length < t.length := by
  obtain ⟨-, u, v, w, hs, hdigits, hf, he⟩ := h
  calc r.length ≤ w.length := he.le
    _ ≤ v.length := hf.le
    _ < u.length := hdigits.lt
    _ ≤ t.length := hs.le

theorem Blanks.lt {g : Glyph} (h : Blanks t (g :: u)) : u.length < t.length := h.le

end Lengths

section Completeness

/-- What a value of nesting `d` that is written at `t`, with `r` behind it, is read as. There is fuel for three
calls at each character: one for the value, one for the bracket and one for the item that begin there. -/
structure ReadsValue (d : Nat) (t : List Glyph) (j : Json) (r : List Glyph) : Prop where
  lt : r.length < t.length
  read : ∀ (fuel : Nat) {c : Cursor}, Blanks c.rest t → Ends r → 3 * t.length + 1 ≤ fuel →
    ∃ c', readShape fuel (d + 1) .any c = .ok (j, c') ∧ c'.rest = r

structure ReadsItems (first : Bool) (d : Nat) (t : List Glyph) (js : List Json) (r : List Glyph) : Prop where
  lt : r.length < t.length
  read : ∀ (fuel : Nat) (done : List Json) {c : Cursor}, c.rest = t → done.isEmpty = first →
    3 * t.length + 2 ≤ fuel →
    ∃ c', readItemsFrom fuel (d + 1) .any done c = .ok (.arr (done.reverse ++ js), c') ∧ c'.rest = r

structure ReadsMember (d : Nat) (t : List Glyph) (m : String × Json) (r : List Glyph) : Prop where
  lt : r.length < t.length
  read : ∀ (fuel : Nat) {first : Bool} {c c₁ : Cursor}, nextKey first c = .ok (some c₁) →
    c₁.rest = t → Ends r → 3 * t.length + 1 ≤ fuel → ∃ c', c'.rest = r ∧ ∀ done,
      readEntriesFrom (fuel + 1) (d + 1) .any first done c =
        readEntriesFrom fuel (d + 1) .any false (done.insert m.1 m.2) c'

structure ReadsMembers (first : Bool) (d : Nat) (t : List Glyph) (ms : List (String × Json))
    (r : List Glyph) : Prop where
  lt : r.length < t.length
  read : ∀ (fuel : Nat) (done : Fields Json) {c : Cursor}, c.rest = t → 3 * t.length + 2 ≤ fuel →
    ∃ c', readEntriesFrom fuel (d + 1) .any first done c =
      .ok (.obj (ms.foldl (fun fields m => Fields.insert m.1 m.2 fields) done), c') ∧ c'.rest = r

variable {js : List Json} {m : String × Json} {ms : List (String × Json)}

theorem reads_word {xs : List Char} {value : Json} (hx : Opens x)
    (hlead : ∀ pos, lead ⟨[.char x], pos⟩ = .word xs value) :
    ReadsValue d ((x :: xs).map .char ++ r) value r where
  lt := by simp only [List.length_append, List.length_map, List.length_cons]; omega
  read fuel {c} hb _ hfuel := by
    obtain ⟨fuel, rfl⟩ := Nat.exists_eq_add_of_le' (Nat.le_trans (Nat.le_add_left 1 _) hfuel)
    have hrest : c.skipSpace.rest = .char x :: (xs.map .char ++ r) := Cursor.rest_skipSpace hb hx.not_blank
    have hword := (lead_of_rest hrest).trans (hlead _)
    rw [readShape_any _ hrest, hword]
    exact readScalar_of_word hword (Cursor.rest_next hrest)

theorem reads_number {m : Numeral} (hm : NumeralAt t m r) (hj : m.value? = some j) : ReadsValue d t j r where
  lt := hm.lt
  read fuel {c} hb hr hfuel := by
    obtain ⟨fuel, rfl⟩ := Nat.exists_eq_add_of_le' (Nat.le_trans (Nat.le_add_left 1 _) hfuel)
    obtain ⟨x, t', rfl, hx⟩ := hm.opens
    have hrest : c.skipSpace.rest = .char x :: t' := Cursor.rest_skipSpace hb hx.not_blank
    obtain ⟨htidy, u, v, w, hs, hdigits, hf, he⟩ := hm
    have hlead : lead c.skipSpace = .number m.negative ∧
        (if m.negative then c.skipSpace.next else c.skipSpace).rest = u := by
      generalize ht : Glyph.char x :: t' = t, m.negative = negative at hs
      cases hs with
      | none =>
        obtain ⟨y, u, hy, hdigit, -⟩ := hdigits.head
        rw [← ht] at hy
        obtain ⟨hxy, rfl⟩ := List.cons.inj hy
        obtain rfl := Text.Glyph.char.inj hxy
        exact ⟨lead_of_digit (Cursor.peek_eq_some_iff.mpr ⟨_, hrest⟩) hdigit, hrest.trans ht⟩
      | minus =>
        obtain ⟨hxy, rfl⟩ := List.cons.inj ht
        obtain rfl := Text.Glyph.char.inj hxy
        exact ⟨lead_of_rest hrest, Cursor.rest_next hrest⟩
    obtain ⟨hlead, rfl⟩ := hlead
    obtain ⟨c', hread, hc'⟩ := readNumber_of_numeral htidy hdigits hf he hr hj
    refine ⟨c', ?_, hc'⟩
    rw [readShape_any _ hrest, hlead]
    exact readScalar_of_number hlead hread

theorem reads_string {cs : List Char} (hcs : CharsAt t cs r) :
    ReadsValue d (.char '"' :: t) (.str (String.ofList cs)) r where
  lt := Nat.lt_succ_of_lt hcs.lt
  read fuel {c} hb _ hfuel := by
    obtain ⟨fuel, rfl⟩ := Nat.exists_eq_add_of_le' (Nat.le_trans (Nat.le_add_left 1 _) hfuel)
    have hrest : c.skipSpace.rest = .char '"' :: t := Cursor.rest_skipSpace hb (by decide)
    have hlead : lead c.skipSpace = .string := lead_of_rest hrest
    have hnext := Cursor.rest_next hrest
    have hroom : c.skipSpace.next.rest.length ≤ fuel := by
      rw [hnext]
      rw [List.length_cons] at hfuel
      omega
    obtain ⟨c', hread, hc'⟩ := readString_of_charsAt (hnext ▸ hcs) hroom
    refine ⟨c', ?_, hc'⟩
    rw [readShape_any _ hrest, hlead]
    exact readScalar_of_string hlead hread

theorem reads_list (h : ReadsItems true d t js r) : ReadsValue (d + 1) (.char '[' :: t) (.arr js) r where
  lt := Nat.lt_succ_of_lt h.lt
  read fuel {c} hb _ hfuel := by
    rw [List.length_cons] at hfuel
    obtain ⟨fuel, rfl⟩ : ∃ k, fuel = k + 2 := ⟨fuel - 2, by omega⟩
    have hrest : c.skipSpace.rest = .char '[' :: t := Cursor.rest_skipSpace hb (by decide)
    have hlead : lead c.skipSpace = .list := lead_of_rest hrest
    rw [readShape_any _ hrest, hlead]
    change ∃ c', readItems (fuel + 1) (d + 1) .any c.skipSpace = _ ∧ _
    rw [readItems, if_neg (Nat.succ_ne_zero d)]
    exact h.read fuel [] (Cursor.rest_next hrest) rfl (by omega)

theorem reads_object (h : ReadsMembers true d t ms r) :
    ReadsValue (d + 1) (.char '\x7b' :: t) (.obj (Fields.ofList ms)) r where
  lt := Nat.lt_succ_of_lt h.lt
  read fuel {c} hb _ hfuel := by
    rw [List.length_cons] at hfuel
    obtain ⟨fuel, rfl⟩ : ∃ k, fuel = k + 2 := ⟨fuel - 2, by omega⟩
    have hrest : c.skipSpace.rest = .char '\x7b' :: t := Cursor.rest_skipSpace hb (by decide)
    have hlead : lead c.skipSpace = .object := lead_of_rest hrest
    rw [readShape_any _ hrest, hlead]
    change ∃ c', readEntries (fuel + 1) (d + 1) .any c.skipSpace = _ ∧ _
    rw [readEntries, if_neg (Nat.succ_ne_zero d)]
    exact h.read fuel [] (Cursor.rest_next hrest) (by omega)

theorem reads_items_none {first : Bool} (hb : Blanks t (.char ']' :: r)) : ReadsItems first d t [] r where
  lt := hb.lt
  read fuel done {c} hc hfirst hfuel := by
    obtain ⟨fuel, rfl⟩ := Nat.exists_eq_add_of_le' (Nat.le_trans (Nat.le_add_left 1 _) hfuel)
    obtain ⟨hnext, hrest⟩ := nextItem_of_close done.isEmpty (hc ▸ hb)
    refine ⟨_, ?_, hrest⟩
    rw [readItemsFrom, hnext, List.append_nil]

theorem reads_items_some {first : Bool} (hj : ReadsValue d u j v) (hjs : ReadsItems false d v js r)
    (hv : Ends v) (hle : u.length ≤ t.length)
    (hnext : ∀ {c : Cursor}, c.rest = t → ∃ c', nextItem first c = .ok (some c') ∧ c'.rest = u) :
    ReadsItems first d t (j :: js) r where
  lt := Nat.lt_of_lt_of_le (Nat.lt_trans hjs.lt hj.lt) hle
  read fuel done {c} hc hfirst hfuel := by
    obtain ⟨fuel, rfl⟩ := Nat.exists_eq_add_of_le' (Nat.le_trans (Nat.le_add_left 1 _) hfuel)
    have hlt := hj.lt
    obtain ⟨c₁, hitem, hrest⟩ := hnext hc
    obtain ⟨c₂, hvalue, hrest₂⟩ := hj.read fuel (c := c₁) (hrest ▸ .none) hv (by omega)
    obtain ⟨c', hread, hend⟩ := hjs.read fuel (j :: done) hrest₂ rfl (by omega)
    refine ⟨c', ?_, hend⟩
    rw [readItemsFrom, hfirst, hitem]
    dsimp only
    rw [hvalue]
    dsimp only
    rw [hread]
    simp

theorem reads_member {cs : List Char} (hcs : CharsAt t cs u) (hcolon : Blanks u (.char ':' :: v))
    (hb : Blanks v w) (hj : ReadsValue d w j r) : ReadsMember d t (String.ofList cs, j) r where
  lt := by
    have := hcs.lt; have := hcolon.lt; have := hb.le; have := hj.lt
    omega
  read fuel {first c c₁} hkey hc₁ hr hfuel := by
    have hle := hcs.lt; have := hcolon.lt; have := hb.le
    obtain ⟨c₂, hname, hrest₂⟩ :=
      readKey_of_nextKey hkey (hc₁ ▸ hcs) (show c₁.rest.length ≤ fuel by rw [hc₁]; omega)
    obtain ⟨c₃, hcolon', hrest₃⟩ := readColon_of_blanks (hrest₂ ▸ hcolon)
    obtain ⟨c₄, hvalue, hrest₄⟩ := hj.read fuel (hrest₃ ▸ hb) hr (by omega)
    refine ⟨c₄, hrest₄, fun done => ?_⟩
    rw [readEntriesFrom, hname]
    dsimp only
    rw [hcolon']
    dsimp only
    rw [hvalue]

theorem reads_members_none {first : Bool} (hb : Blanks t (.char '\x7d' :: r)) : ReadsMembers first d t [] r where
  lt := hb.lt
  read fuel done {c} hc hfuel := by
    obtain ⟨fuel, rfl⟩ := Nat.exists_eq_add_of_le' (Nat.le_trans (Nat.le_add_left 1 _) hfuel)
    obtain ⟨hnext, hrest⟩ := nextKey_of_close first (hc ▸ hb)
    refine ⟨_, ?_, hrest⟩
    rw [readEntriesFrom, readKey, hnext]
    rfl

theorem reads_members_some {first : Bool} (hm : ReadsMember d u m v)
    (hms : ReadsMembers false d v ms r) (hv : Ends v) (hle : u.length ≤ t.length)
    (hnext : ∀ {c : Cursor}, c.rest = t → ∃ c', nextKey first c = .ok (some c') ∧ c'.rest = u) :
    ReadsMembers first d t (m :: ms) r where
  lt := Nat.lt_of_lt_of_le (Nat.lt_trans hms.lt hm.lt) hle
  read fuel done {c} hc hfuel := by
    obtain ⟨fuel, rfl⟩ := Nat.exists_eq_add_of_le' (Nat.le_trans (Nat.le_add_left 1 _) hfuel)
    have hlt := hm.lt
    obtain ⟨c₁, hkey, hrest⟩ := hnext hc
    obtain ⟨c₂, hrest₂, hmember⟩ := hm.read fuel hkey hrest hv (by omega)
    obtain ⟨c', hread, hend⟩ := hms.read fuel (done.insert m.1 m.2) hrest₂ (by omega)
    exact ⟨c', by rw [hmember, hread]; rfl, hend⟩

mutual

theorem ValueAt.reads {d : Nat} {t r : List Glyph} {j : Json} : ValueAt d t j r → ReadsValue d t j r
  | .null => reads_word (by decide) fun _ => rfl
  | .true => reads_word (by decide) fun _ => rfl
  | .false => reads_word (by decide) fun _ => rfl
  | .number hm hj => reads_number hm hj
  | .string hcs => reads_string hcs
  | .list hjs => reads_list hjs.reads
  | .object hms => reads_object hms.reads

theorem ItemsAt.reads {d : Nat} {t r : List Glyph} {js : List Json} :
    ItemsAt d t js r → ReadsItems true d t js r
  | .none hb => reads_items_none hb
  | .some hb hj hjs => reads_items_some hj.reads hjs.reads hjs.ends hb.le fun hc => by
    obtain ⟨x, u, rfl, hx⟩ := hj.opens
    exact ⟨_, nextItem_first (hc ▸ hb) hx⟩

theorem MoreItemsAt.reads {d : Nat} {t r : List Glyph} {js : List Json} :
    MoreItemsAt d t js r → ReadsItems false d t js r
  | .none hb => reads_items_none hb
  | .some hcomma hb hj hjs =>
    reads_items_some hj.reads hjs.reads hjs.ends (Nat.le_trans hb.le (Nat.le_of_lt hcomma.lt)) fun hc => by
      obtain ⟨x, u, rfl, hx⟩ := hj.opens
      exact nextItem_more (hc ▸ hcomma) hb hx

theorem MemberAt.reads {d : Nat} {t r : List Glyph} {m : String × Json} :
    MemberAt d t m r → ReadsMember d t m r
  | .mk hcs hcolon hb hj => reads_member hcs hcolon hb hj.reads

theorem MembersAt.reads {d : Nat} {t r : List Glyph} {ms : List (String × Json)} :
    MembersAt d t ms r → ReadsMembers true d t ms r
  | .none hb => reads_members_none hb
  | .some hb hm hms =>
    reads_members_some hm.reads hms.reads hms.ends (Nat.le_of_lt hb.lt) fun hc => nextKey_first (hc ▸ hb)

theorem MoreMembersAt.reads {d : Nat} {t r : List Glyph} {ms : List (String × Json)} :
    MoreMembersAt d t ms r → ReadsMembers false d t ms r
  | .none hb => reads_members_none hb
  | .some hcomma hb hm hms =>
    reads_members_some hm.reads hms.reads hms.ends (Nat.le_of_lt (Nat.lt_trans hb.lt hcomma.lt))
      fun hc => nextKey_more (hc ▸ hcomma) hb

end

theorem readGlyphs_of_isText {text : List Glyph} (h : IsText 127 text j) : readGlyphs .any text = .ok j := by
  obtain ⟨t, r, hb, hj, hr⟩ := h
  have hends : Ends r := hr.ends fun x u hx => by cases hx
  obtain ⟨c, hread, hrest⟩ := hj.reads.read (4 * text.length + 16) (c := .start text) hb hends
    (by have := hb.le; omega)
  have hend : c.skipSpace.atEnd = true :=
    Cursor.atEnd_iff.mpr (Cursor.rest_skipSpaceFrom (hrest ▸ hr) (by simp) c.pos)
  change (readShape _ (127 + 1) .any _ >>= _) = _
  rw [hread]
  change (if c.skipSpace.atEnd then _ else _) = _
  rw [if_pos hend]
  rfl

theorem readGlyphs_any_eq_ok_iff {text : List Glyph} : readGlyphs .any text = .ok j ↔ IsText 127 text j :=
  ⟨isText_of_readGlyphs, readGlyphs_of_isText⟩

theorem IsText.unique {d e : Nat} {text : List Glyph} {i j : Json} (hi : IsText d text i)
    (hj : IsText e text j) : i = j := by
  replace hi := hi.mono (Nat.le_max_left d e)
  replace hj := hj.mono (Nat.le_max_right d e)
  obtain ⟨t, r, hb, hi, hr⟩ := hi
  obtain ⟨t', r', hb', hj, hr'⟩ := hj
  have hends : ∀ {u}, Blanks u [] → Ends u := fun h => h.ends fun x u hx => by cases hx
  obtain ⟨c, hread, -⟩ := hi.reads.read (3 * text.length + 1) (c := .start text) hb (hends hr)
    (by have := hb.le; omega)
  obtain ⟨c', hread', -⟩ := hj.reads.read (3 * text.length + 1) (c := .start text) hb' (hends hr')
    (by have := hb'.le; omega)
  rw [hread] at hread'
  exact (Prod.mk.inj (Except.ok.inj hread')).1

end Completeness

end EndpointGate.Json
