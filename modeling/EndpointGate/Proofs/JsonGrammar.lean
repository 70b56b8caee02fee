import EndpointGate.Json.Reader

/-! The grammar of JSON text, with what each text means. Every relation says that a text begins with
something written and tells what is left behind it, so that nothing is said of how a reader finds its way.
Lists and objects are counted by how deep they are nested. -/

namespace EndpointGate.Json

open Text (Glyph)

inductive Blanks : List Glyph → List Glyph → Prop
  | none {r : List Glyph} : Blanks r r
  | more {x : Char} {t r : List Glyph} :
    x ∈ [' ', '\n', '\t', '\r'] → Blanks t r → Blanks (.char x :: t) r

section Numbers

inductive DigitsAt : List Glyph → List Nat → List Glyph → Prop
  | last {x : Char} {r : List Glyph} : x.isDigit → DigitsAt (.char x :: r) [x.toNat - 48] r
  | more {x : Char} {t r : List Glyph} {ds : List Nat} :
    x.isDigit → DigitsAt t ds r → DigitsAt (.char x :: t) ((x.toNat - 48) :: ds) r

structure Numeral where
  negative : Bool
  whole : List Nat
  fraction : List Nat
  exponent : Option (Bool × List Nat)

inductive SignAt : List Glyph → Bool → List Glyph → Prop
  | none {t : List Glyph} : SignAt t false t
  | minus {t : List Glyph} : SignAt (.char '-' :: t) true t

inductive FractionAt : List Glyph → List Nat → List Glyph → Prop
  | none {t : List Glyph} : FractionAt t [] t
  | some {t r : List Glyph} {ds : List Nat} : DigitsAt t ds r → FractionAt (.char '.' :: t) ds r

inductive ExponentAt : List Glyph → Option (Bool × List Nat) → List Glyph → Prop
  | none {t : List Glyph} : ExponentAt t none t
  | plain {x : Char} {t r : List Glyph} {ds : List Nat} :
    x ∈ ['e', 'E'] → DigitsAt t ds r → ExponentAt (.char x :: t) (some (false, ds)) r
  | signed {x s : Char} {t r : List Glyph} {ds : List Nat} :
    x ∈ ['e', 'E'] → s ∈ ['+', '-'] → DigitsAt t ds r →
    ExponentAt (.char x :: .char s :: t) (some (s == '-', ds)) r

def Numeral.Tidy (m : Numeral) : Prop := m.whole = [0] ∨ m.whole.head? ≠ some 0

def NumeralAt (t : List Glyph) (m : Numeral) (r : List Glyph) : Prop :=
  m.Tidy ∧ ∃ u v w, SignAt t m.negative u ∧ DigitsAt u m.whole v ∧ FractionAt v m.fraction w ∧
    ExponentAt w m.exponent r

def Numeral.gathered (m : Numeral) : Gathered :=
  Gathered.fraction ⟨(gatherDigits 0 m.whole).1, (gatherDigits 0 m.whole).2⟩ m.fraction

def Numeral.isInteger (m : Numeral) : Bool :=
  m.fraction.isEmpty && m.exponent.isNone && (gatherDigits 0 m.whole).2 == 0

/-- The double of gathered digits with an exponent. Of an exponent beyond 31 bits only the sign matters;
a number beyond the greatest double means nothing. -/
def Gathered.scaled? (g : Gathered) (negative : Bool) : Option (Bool × List Nat) → Option Json
  | none => (g.toDouble negative).map .real
  | some (minus, ds) =>
    let (n, _, all) := gatherExponent 0 0 ds
    if all then
      let e := if minus then g.exponent - n else g.exponent + n
      (Gathered.toDouble ⟨g.significand, max (-2147483648) (min 2147483647 e)⟩ negative).map .real
    else if g.significand ≠ 0 && !minus then none
    else some (.real (Binary64.ofFloat (if negative then -0.0 else 0.0)))

def Numeral.value? (m : Numeral) : Option Json :=
  if m.isInteger then some (integer m.negative (gatherDigits 0 m.whole).1)
  else m.gathered.scaled? m.negative m.exponent

end Numbers

section Strings

inductive HexAt : List Glyph → Nat → List Glyph → Prop
  | mk {g₁ g₂ g₃ g₄ : Glyph} {a b x y : Nat} {r : List Glyph} :
    hexValue? g₁ = some a → hexValue? g₂ = some b → hexValue? g₃ = some x → hexValue? g₄ = some y →
    HexAt (g₁ :: g₂ :: g₃ :: g₄ :: r) (((a * 16 + b) * 16 + x) * 16 + y) r

/-- A character of a string: as it is, by its name after a backslash, or by its number. Two numbers that are
surrogates make one character; a surrogate alone makes none. -/
inductive CharAt : List Glyph → Char → List Glyph → Prop
  | plain {x : Char} {r : List Glyph} :
    0x20 ≤ x.toNat → x ≠ '"' → x ≠ '\\' → CharAt (.char x :: r) x r
  | named {x y : Char} {r : List Glyph} :
    plainEscape? x = some y → CharAt (.char '\\' :: .char x :: r) y r
  | numbered {t r : List Glyph} {n : Nat} :
    HexAt t n r → n < 0xD800 ∨ 0xDFFF < n → CharAt (.char '\\' :: .char 'u' :: t) (Char.ofNat n) r
  | paired {t u r : List Glyph} {n low : Nat} :
    HexAt t n (.char '\\' :: .char 'u' :: u) → 0xD800 ≤ n → n ≤ 0xDBFF →
    HexAt u low r → 0xDC00 ≤ low → low ≤ 0xDFFF →
    CharAt (.char '\\' :: .char 'u' :: t)
      (Char.ofNat ((n - 0xD800) * 1024 + (low - 0xDC00) + 0x10000)) r

inductive CharsAt : List Glyph → List Char → List Glyph → Prop
  | close {r : List Glyph} : CharsAt (.char '"' :: r) [] r
  | more {t u r : List Glyph} {x : Char} {xs : List Char} :
    CharAt t x u → CharsAt u xs r → CharsAt t (x :: xs) r

theorem hexValue?_hexDigit {n : Nat} (h : n < 16) : hexValue? (.char (Text.hexDigit n)) = some n := by
  revert n
  decide

theorem CharAt.octet {x : Char} (h : x.toNat < 256) (r : List Glyph) :
    CharAt (['\\', 'u', '0', '0', Text.hexDigit (x.toNat / 16), Text.hexDigit (x.toNat % 16)].map .char ++ r)
      x r := by
  have hhex : HexAt (['0', '0', Text.hexDigit (x.toNat / 16), Text.hexDigit (x.toNat % 16)].map .char ++ r)
      (((0 * 16 + 0) * 16 + x.toNat / 16) * 16 + x.toNat % 16) r :=
    .mk rfl rfl (hexValue?_hexDigit (by omega)) (hexValue?_hexDigit (by omega))
  have hvalue : ((0 * 16 + 0) * 16 + x.toNat / 16) * 16 + x.toNat % 16 = x.toNat := by omega
  rw [hvalue] at hhex
  have hchar := CharAt.numbered hhex (.inl (by omega))
  rwa [Char.ofNat_toNat] at hchar

theorem CharsAt.escaped {escape : Char → List Char}
    (h : ∀ (x : Char) (r : List Glyph), CharAt ((escape x).map .char ++ r) x r) (xs : List Char)
    (r : List Glyph) : CharsAt ((xs.flatMap escape).map .char ++ .char '"' :: r) xs r := by
  induction xs with
  | nil => exact .close
  | cons x xs ih =>
    rw [List.flatMap_cons, List.map_append, List.append_assoc]
    exact .more (h x _) ih

end Strings

mutual

/-- A value in which lists and objects are nested `d` deep at most. Of members with one name the last
counts. -/
inductive ValueAt : Nat → List Glyph → Json → List Glyph → Prop
  | null {d : Nat} {r : List Glyph} : ValueAt d (['n', 'u', 'l', 'l'].map .char ++ r) .null r
  | true {d : Nat} {r : List Glyph} : ValueAt d (['t', 'r', 'u', 'e'].map .char ++ r) (.bool true) r
  | false {d : Nat} {r : List Glyph} :
    ValueAt d (['f', 'a', 'l', 's', 'e'].map .char ++ r) (.bool false) r
  | number {d : Nat} {t r : List Glyph} {m : Numeral} {j : Json} :
    NumeralAt t m r → m.value? = some j → ValueAt d t j r
  | string {d : Nat} {t r : List Glyph} {cs : List Char} :
    CharsAt t cs r → ValueAt d (.char '"' :: t) (.str (String.ofList cs)) r
  | list {d : Nat} {t r : List Glyph} {js : List Json} :
    ItemsAt d t js r → ValueAt (d + 1) (.char '[' :: t) (.arr js) r
  | object {d : Nat} {t r : List Glyph} {ms : List (String × Json)} :
    MembersAt d t ms r → ValueAt (d + 1) (.char '\x7b' :: t) (.obj (Fields.ofList ms)) r

inductive ItemsAt : Nat → List Glyph → List Json → List Glyph → Prop
  | none {d : Nat} {t r : List Glyph} : Blanks t (.char ']' :: r) → ItemsAt d t [] r
  | some {d : Nat} {t u v r : List Glyph} {j : Json} {js : List Json} :
    Blanks t u → ValueAt d u j v → MoreItemsAt d v js r → ItemsAt d t (j :: js) r

inductive MoreItemsAt : Nat → List Glyph → List Json → List Glyph → Prop
  | none {d : Nat} {t r : List Glyph} : Blanks t (.char ']' :: r) → MoreItemsAt d t [] r
  | some {d : Nat} {t u v w r : List Glyph} {j : Json} {js : List Json} :
    Blanks t (.char ',' :: u) → Blanks u v → ValueAt d v j w → MoreItemsAt d w js r →
    MoreItemsAt d t (j :: js) r

inductive MemberAt : Nat → List Glyph → String × Json → List Glyph → Prop
  | mk {d : Nat} {t u v w r : List Glyph} {cs : List Char} {j : Json} :
    CharsAt t cs u → Blanks u (.char ':' :: v) → Blanks v w → ValueAt d w j r →
    MemberAt d t (String.ofList cs, j) r

inductive MembersAt : Nat → List Glyph → List (String × Json) → List Glyph → Prop
  | none {d : Nat} {t r : List Glyph} : Blanks t (.char '\x7d' :: r) → MembersAt d t [] r
  | some {d : Nat} {t u v r : List Glyph} {m : String × Json} {ms : List (String × Json)} :
    Blanks t (.char '"' :: u) → MemberAt d u m v → MoreMembersAt d v ms r → MembersAt d t (m :: ms) r

inductive MoreMembersAt : Nat → List Glyph → List (String × Json) → List Glyph → Prop
  | none {d : Nat} {t r : List Glyph} : Blanks t (.char '\x7d' :: r) → MoreMembersAt d t [] r
  | some {d : Nat} {t u v w r : List Glyph} {m : String × Json} {ms : List (String × Json)} :
    Blanks t (.char ',' :: u) → Blanks u (.char '"' :: v) → MemberAt d v m w → MoreMembersAt d w ms r →
    MoreMembersAt d t (m :: ms) r

end

def IsText (d : Nat) (t : List Glyph) (j : Json) : Prop :=
  ∃ u v, Blanks t u ∧ ValueAt d u j v ∧ Blanks v []

section Depth

mutual

theorem ValueAt.mono {d e : Nat} {t r : List Glyph} {j : Json} (h : ValueAt d t j r) (hd : d ≤ e) :
    ValueAt e t j r := by
  cases h with
  | null => exact .null
  | true => exact .true
  | false => exact .false
  | number hm hv => exact .number hm hv
  | string hcs => exact .string hcs
  | list hjs =>
    obtain ⟨e, rfl⟩ : ∃ k, e = k + 1 := ⟨e - 1, by omega⟩
    exact .list (hjs.mono (Nat.le_of_succ_le_succ hd))
  | object hms =>
    obtain ⟨e, rfl⟩ : ∃ k, e = k + 1 := ⟨e - 1, by omega⟩
    exact .object (hms.mono (Nat.le_of_succ_le_succ hd))

theorem ItemsAt.mono {d e : Nat} {t r : List Glyph} {js : List Json} (h : ItemsAt d t js r)
    (hd : d ≤ e) : ItemsAt e t js r := by
  cases h with
  | none hb => exact .none hb
  | some hb hj hjs => exact .some hb (hj.mono hd) (hjs.mono hd)

theorem MoreItemsAt.mono {d e : Nat} {t r : List Glyph} {js : List Json} (h : MoreItemsAt d t js r)
    (hd : d ≤ e) : MoreItemsAt e t js r := by
  cases h with
  | none hb => exact .none hb
  | some hc hb hj hjs => exact .some hc hb (hj.mono hd) (hjs.mono hd)

theorem MemberAt.mono {d e : Nat} {t r : List Glyph} {m : String × Json} (h : MemberAt d t m r)
    (hd : d ≤ e) : MemberAt e t m r := by
  cases h with
  | mk hcs hc hb hj => exact .mk hcs hc hb (hj.mono hd)

theorem MembersAt.mono {d e : Nat} {t r : List Glyph} {ms : List (String × Json)}
    (h : MembersAt d t ms r) (hd : d ≤ e) : MembersAt e t ms r := by
  cases h with
  | none hb => exact .none hb
  | some hb hm hms => exact .some hb (hm.mono hd) (hms.mono hd)

theorem MoreMembersAt.mono {d e : Nat} {t r : List Glyph} {ms : List (String × Json)}
    (h : MoreMembersAt d t ms r) (hd : d ≤ e) : MoreMembersAt e t ms r := by
  cases h with
  | none hb => exact .none hb
  | some hc hb hm hms => exact .some hc hb (hm.mono hd) (hms.mono hd)

end

theorem IsText.mono {d e : Nat} {t : List Glyph} {j : Json} (h : IsText d t j) (hd : d ≤ e) : IsText e t j := by
  obtain ⟨u, v, hu, hv, hr⟩ := h
  exact ⟨u, v, hu, hv.mono hd, hr⟩

end Depth

section Characters

def Written (t r : List Glyph) : Prop := ∃ cs : List Char, t = cs.map .char ++ r

variable {t u r : List Glyph}

theorem Written.refl (t : List Glyph) : Written t t := ⟨[], rfl⟩

theorem Written.trans (h : Written t u) (h' : Written u r) : Written t r := by
  obtain ⟨cs, rfl⟩ := h
  obtain ⟨ds, rfl⟩ := h'
  exact ⟨cs ++ ds, by rw [List.map_append, List.append_assoc]⟩

theorem Written.cons (x : Char) (h : Written t r) : Written (.char x :: t) r := by
  obtain ⟨cs, rfl⟩ := h
  exact ⟨x :: cs, rfl⟩

theorem Written.append (xs : List Char) (h : Written t r) : Written (xs.map .char ++ t) r := by
  obtain ⟨cs, rfl⟩ := h
  exact ⟨xs ++ cs, by rw [List.map_append, List.append_assoc]⟩

theorem Blanks.written (h : Blanks t r) : Written t r := by
  induction h with
  | none => exact .refl _
  | more _ _ ih => exact ih.cons _

theorem DigitsAt.written {ds : List Nat} (h : DigitsAt t ds r) : Written t r := by
  induction h with
  | last _ => exact (Written.refl _).cons _
  | more _ _ ih => exact ih.cons _

theorem SignAt.written {b : Bool} (h : SignAt t b r) : Written t r := by
  cases h with
  | none => exact .refl _
  | minus => exact (Written.refl _).cons _

theorem FractionAt.written {ds : List Nat} (h : FractionAt t ds r) : Written t r := by
  cases h with
  | none => exact .refl _
  | some h => exact h.written.cons _

theorem ExponentAt.written {e : Option (Bool × List Nat)} (h : ExponentAt t e r) : Written t r := by
  cases h with
  | none => exact .refl _
  | plain _ h => exact h.written.cons _
  | signed _ _ h => exact (h.written.cons _).cons _

theorem NumeralAt.written {m : Numeral} (h : NumeralAt t m r) : Written t r := by
  obtain ⟨-, u, v, w, hs, hdigits, hf, he⟩ := h
  exact hs.written.trans (hdigits.written.trans (hf.written.trans he.written))

theorem eq_char_of_hexValue? {g : Glyph} {n : Nat} (h : hexValue? g = some n) : ∃ x, g = .char x := by
  cases g with
  | char x => exact ⟨x, rfl⟩
  | stray b => cases h

theorem HexAt.written {n : Nat} (h : HexAt t n r) : Written t r := by
  cases h with
  | mk h₁ h₂ h₃ h₄ =>
    obtain ⟨a, rfl⟩ := eq_char_of_hexValue? h₁
    obtain ⟨b, rfl⟩ := eq_char_of_hexValue? h₂
    obtain ⟨c, rfl⟩ := eq_char_of_hexValue? h₃
    obtain ⟨d, rfl⟩ := eq_char_of_hexValue? h₄
    exact ⟨[a, b, c, d], rfl⟩

theorem CharAt.written {x : Char} (h : CharAt t x r) : Written t r := by
  cases h with
  | plain => exact (Written.refl _).cons _
  | named => exact ((Written.refl _).cons _).cons _
  | numbered h _ => exact (h.written.cons _).cons _
  | paired h _ _ hl _ _ => exact ((h.written.trans ((hl.written.cons _).cons _)).cons _).cons _

theorem CharsAt.written {cs : List Char} (h : CharsAt t cs r) : Written t r := by
  induction h with
  | close => exact (Written.refl _).cons _
  | more hx _ ih => exact hx.written.trans ih

mutual

theorem ValueAt.written {d : Nat} {t r : List Glyph} {j : Json} : ValueAt d t j r → Written t r
  | .null => (Written.refl _).append _
  | .true => (Written.refl _).append _
  | .false => (Written.refl _).append _
  | .number hm _ => hm.written
  | .string hcs => hcs.written.cons _
  | .list hjs => hjs.written.cons _
  | .object hms => hms.written.cons _

theorem ItemsAt.written {d : Nat} {t r : List Glyph} {js : List Json} : ItemsAt d t js r → Written t r
  | .none hb => hb.written.trans ((Written.refl _).cons _)
  | .some hb hj hjs => hb.written.trans (hj.written.trans hjs.written)

theorem MoreItemsAt.written {d : Nat} {t r : List Glyph} {js : List Json} :
    MoreItemsAt d t js r → Written t r
  | .none hb => hb.written.trans ((Written.refl _).cons _)
  | .some hc hb hj hjs => hc.written.trans ((hb.written.trans (hj.written.trans hjs.written)).cons _)

theorem MemberAt.written {d : Nat} {t r : List Glyph} {m : String × Json} : MemberAt d t m r → Written t r
  | .mk hcs hc hb hj => hcs.written.trans (hc.written.trans ((hb.written.trans hj.written).cons _))

theorem MembersAt.written {d : Nat} {t r : List Glyph} {ms : List (String × Json)} :
    MembersAt d t ms r → Written t r
  | .none hb => hb.written.trans ((Written.refl _).cons _)
  | .some hb hm hms => hb.written.trans ((hm.written.trans hms.written).cons _)

theorem MoreMembersAt.written {d : Nat} {t r : List Glyph} {ms : List (String × Json)} :
    MoreMembersAt d t ms r → Written t r
  | .none hb => hb.written.trans ((Written.refl _).cons _)
  | .some hc hb hm hms =>
    hc.written.trans ((hb.written.trans ((hm.written.trans hms.written).cons _)).cons _)

end

theorem IsText.written {d : Nat} {j : Json} (h : IsText d t j) : Written t [] := by
  obtain ⟨u, v, hu, hj, hv⟩ := h
  exact hu.written.trans (hj.written.trans hv.written)

end Characters

end EndpointGate.Json
