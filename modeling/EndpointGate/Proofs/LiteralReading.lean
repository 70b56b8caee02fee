import EndpointGate.Proofs.EndpointLookup
import EndpointGate.Proofs.JsonGrammar
import Mathlib.Tactic.SplitIfs

/-! Numbers and strings are read exactly where the grammar has them. A number is read digit by digit and its
value built on the way; it is first cut out as a `Numeral`, and then what a reading is of it. -/

namespace EndpointGate.Json

open Text (Glyph)
open Sql (bind_eq_ok)

namespace Cursor

variable {c : Cursor} {x : Char} {g : Glyph} {t : List Glyph}

theorem atEnd_iff : c.atEnd = true ↔ c.rest = [] := List.isEmpty_iff

theorem peek_eq_some_iff : c.peek = some x ↔ ∃ t, c.rest = .char x :: t := by
  unfold peek
  split
  · rename_i y t h
    simp [h]
  · rename_i h
    simp only [reduceCtorEq, false_iff, not_exists]
    intro t ht
    exact h x t ht

theorem rest_next (h : c.rest = g :: t) : c.next.rest = t := by
  unfold next
  rw [h]

theorem rest_eq_of_peek (h : c.peek = some x) : c.rest = .char x :: c.next.rest := by
  obtain ⟨t, ht⟩ := peek_eq_some_iff.mp h
  rw [rest_next ht, ht]

theorem isSpace_char : isSpace (.char x) = true ↔ x ∈ [' ', '\n', '\t', '\r'] := by
  simp [isSpace, or_assoc]

theorem blanks_skipSpaceFrom (pos : Position) (t : List Glyph) :
    Blanks t (skipSpaceFrom pos t).rest := by
  fun_induction skipSpaceFrom pos t with
  | case1 pos => exact .none
  | case2 pos g t h ih =>
    cases g with
    | char x => exact .more (isSpace_char.mp h) ih
    | stray b => simp [isSpace] at h
  | case3 pos g t h => exact .none

theorem blanks_skipSpace (c : Cursor) : Blanks c.rest c.skipSpace.rest :=
  blanks_skipSpaceFrom c.pos c.rest

end Cursor

section Digits

theorem digitsAt_takeDigitsFrom (column line : Nat) (done : List Nat) (t : List Glyph) :
    ∃ ds, (Cursor.takeDigitsFrom column line done t).1 = done.reverse ++ ds ∧
      (ds = [] ∧ (Cursor.takeDigitsFrom column line done t).2.rest = t ∨
        DigitsAt t ds (Cursor.takeDigitsFrom column line done t).2.rest) := by
  fun_induction Cursor.takeDigitsFrom column line done t with
  | case1 column done x t hx ih =>
    obtain ⟨ds, hds, hrest⟩ := ih
    refine ⟨(x.toNat - 48) :: ds, by simp [hds], .inr ?_⟩
    obtain ⟨rfl, hr⟩ | hr := hrest
    · rw [hr]
      exact .last hx
    · exact .more hx hr
  | case2 column done x t hx => exact ⟨[], by simp, .inl ⟨rfl, rfl⟩⟩
  | case3 column done t ht => exact ⟨[], by simp, .inl ⟨rfl, rfl⟩⟩

variable {c c' : Cursor} {j : Json} {negative : Bool}

theorem digitsAt_of_takeDigits {ds : List Nat} (h : c.takeDigits = (ds, c')) (hne : ds ≠ []) :
    DigitsAt c.rest ds c'.rest := by
  obtain ⟨ds', hds, hrest⟩ := digitsAt_takeDigitsFrom c.pos.column c.pos.line [] c.rest
  rw [Cursor.takeDigits] at h
  rw [h] at hds hrest
  obtain rfl : ds = ds' := by simpa using hds
  exact hrest.resolve_left fun hnil => hne hnil.1

theorem digit?_eq_some_iff {n : Nat} :
    c.digit? = some n ↔ ∃ x t, c.rest = .char x :: t ∧ x.isDigit ∧ n = x.toNat - 48 := by
  unfold Cursor.digit?
  split
  · rename_i x t h
    simp only [Option.ite_none_right_eq_some, Option.some.injEq, h, List.cons.injEq, Text.Glyph.char.injEq]
    grind
  · rename_i h
    simp only [reduceCtorEq, false_iff, not_exists, not_and]
    intro x t ht
    exact absurd ht (h x t)

theorem ne_nil_of_takeDigits {ds : List Nat} (hd : c.digit?.isSome) (h : c.takeDigits = (ds, c')) :
    ds ≠ [] := by
  rintro rfl
  obtain ⟨n, hn⟩ := Option.isSome_iff_exists.mp hd
  obtain ⟨x, t, hrest, hx, rfl⟩ := digit?_eq_some_iff.mp hn
  have hds : (Cursor.takeDigitsFrom c.pos.column c.pos.line [] c.rest).1 = [] := by
    rw [← Cursor.takeDigits, h]
  rw [hrest, Cursor.takeDigitsFrom, if_pos hx] at hds
  obtain ⟨ds', hds', -⟩ := digitsAt_takeDigitsFrom (c.pos.column + 1) c.pos.line [x.toNat - 48] t
  rw [hds] at hds'
  simp at hds'

end Digits

section Cutting

variable {c c' : Cursor} {j : Json} {negative : Bool}

def afterSign (c : Cursor) : Cursor :=
  if c.next.peek == some '-' || c.next.peek == some '+' then c.next.next else c.next

def scanExponent (c : Cursor) : Option (Option (Bool × List Nat) × Cursor) :=
  if c.peek == some 'e' || c.peek == some 'E' then
    if (afterSign c).digit?.isSome then
      some (some (c.next.peek == some '-', (afterSign c).takeDigits.1), (afterSign c).takeDigits.2)
    else none
  else some (none, c)

def scanFraction (c : Cursor) : Option (List Nat × Cursor) :=
  if c.peek == some '.' then
    if c.next.takeDigits.1.isEmpty then none else some c.next.takeDigits
  else some ([], c)

def scanNumeral (negative : Bool) (c : Cursor) : Option (Numeral × Cursor) :=
  if c.digit?.isNone || (c.digit? = some 0 && c.next.digit?.isSome) then none
  else (scanFraction c.takeDigits.2).bind fun p => (scanExponent p.2).map fun q =>
    (⟨negative, c.takeDigits.1, p.1, q.1⟩, q.2)

theorem toOption_finish (g : Gathered) (negative : Bool) (c : Cursor) :
    (finish g negative c).toOption = ((g.toDouble negative).map Json.real).map (·, c) := by
  unfold finish
  cases g.toDouble negative <;> rfl

theorem toOption_readExponent (g : Gathered) (negative : Bool)
    (hletter : (c.peek == some 'e' || c.peek == some 'E') = true) :
    (readExponent g negative c).toOption =
      (scanExponent c).bind fun p => (g.scaled? negative p.1).map (·, p.2) := by
  have hsign : (if c.next.peek == some '-' || c.next.peek == some '+' then c.next.next else c.next) =
      afterSign c := rfl
  unfold readExponent scanExponent
  simp only [hletter, if_true, hsign]
  cases hd : (afterSign c).digit? with
  | none =>
    simp only [Option.isNone_none, if_true, Option.isSome_none, Bool.false_eq_true, if_false]
    split <;> rfl
  | some n =>
    have hend : (afterSign c).atEnd = false := by
      obtain ⟨x, t, hrest, -⟩ := digit?_eq_some_iff.mp hd
      simp [Cursor.atEnd, hrest]
    simp only [hend, Bool.false_eq_true, if_false, Option.isNone_some, Option.isSome_some, if_true,
      Option.bind_some, Gathered.scaled?]
    split_ifs
    · exact toOption_finish ..
    · exact toOption_finish ..
    · rfl
    · rfl
    · rfl

theorem scanExponent_of_no_letter (h : (c.peek == some 'e' || c.peek == some 'E') = false) :
    scanExponent c = some (none, c) := by
  simp [scanExponent, h]

theorem toOption_behind (g : Gathered) (negative : Bool) (c : Cursor) :
    (if c.peek == some 'e' || c.peek == some 'E' then readExponent g negative c
      else finish g negative c).toOption =
      (scanExponent c).bind fun p => (g.scaled? negative p.1).map (·, p.2) := by
  split_ifs with hletter
  · exact toOption_readExponent g negative hletter
  · rw [scanExponent_of_no_letter (Bool.eq_false_iff.mpr hletter)]
    exact toOption_finish g negative c

theorem toOption_readFraction (g : Gathered) (negative : Bool) (hpoint : (c.peek == some '.') = true) :
    (readFraction g negative c).toOption = (scanFraction c).bind fun p =>
      (scanExponent p.2).bind fun q => ((g.fraction p.1).scaled? negative q.1).map (·, q.2) := by
  unfold readFraction scanFraction
  cases hnone : c.next.takeDigits.1.isEmpty with
  | true => simp [hpoint, hnone, Except.toOption]
  | false =>
    simp only [hpoint, hnone, if_true, Bool.false_eq_true, if_false, Option.bind_some]
    exact toOption_behind _ negative _

theorem value?_of_not_isInteger {m : Numeral} (h : m.isInteger = false) :
    m.value? = m.gathered.scaled? m.negative m.exponent := by
  simp [Numeral.value?, h]

theorem ne_nil_of_scanFraction {p : List Nat × Cursor} (hpoint : (c.peek == some '.') = true)
    (h : scanFraction c = some p) : p.1 ≠ [] := by
  unfold scanFraction at h
  rw [if_pos hpoint] at h
  split_ifs at h with hnone
  obtain rfl := Option.some.inj h
  simpa using hnone

theorem isNone_of_scanExponent {p : Option (Bool × List Nat) × Cursor}
    (hletter : (c.peek == some 'e' || c.peek == some 'E') = true) (h : scanExponent c = some p) :
    p.1.isNone = false := by
  unfold scanExponent at h
  rw [if_pos hletter] at h
  split_ifs at h
  obtain rfl := Option.some.inj h
  rfl

theorem toOption_readNumber (negative : Bool) (c : Cursor) :
    (readNumber negative c).toOption =
      (scanNumeral negative c).bind fun p => p.1.value?.map (·, p.2) := by
  unfold readNumber scanNumeral
  by_cases hnone : c.digit?.isNone
  · simp [hnone, Except.toOption]
  by_cases hzero : (decide (c.digit? = some 0) && c.next.digit?.isSome) = true
  · simp [hnone, hzero, Except.toOption]
  simp only [hnone, hzero, Bool.or_self, Bool.false_eq_true, if_false, Option.bind_assoc, Option.bind_map]
  cases hpoint : c.takeDigits.2.peek == some '.' with
  | true =>
    simp only [if_true, toOption_readFraction _ _ hpoint]
    -- digits behind the point make the number a double
    cases hf : scanFraction c.takeDigits.2 with
    | none => rfl
    | some p =>
      have hne := ne_nil_of_scanFraction hpoint hf
      rw [Option.bind_some, Option.bind_some]
      refine congrArg (Option.bind _) (funext fun q => ?_)
      rw [Function.comp_apply, value?_of_not_isInteger (by simp [Numeral.isInteger, hne])]
      rfl
  | false =>
    have hf : scanFraction c.takeDigits.2 = some ([], c.takeDigits.2) := by simp [scanFraction, hpoint]
    simp only [hf, Option.bind_some, Bool.false_eq_true, if_false]
    cases hletter : c.takeDigits.2.peek == some 'e' || c.takeDigits.2.peek == some 'E' with
    | true =>
      simp only [if_true, toOption_readExponent _ _ hletter]
      cases he : scanExponent c.takeDigits.2 with
      | none => rfl
      | some q =>
        have hsome := isNone_of_scanExponent hletter he
        rw [Option.bind_some, Option.bind_some, Function.comp_apply,
          value?_of_not_isInteger (by simp [Numeral.isInteger, hsome])]
        rfl
    | false =>
      rw [scanExponent_of_no_letter hletter]
      simp only [Bool.false_eq_true, if_false, Option.bind_some, Function.comp_apply]
      by_cases hall : (gatherDigits 0 c.takeDigits.1).2 = 0
      · rw [if_pos hall, Numeral.value?, if_pos (by simp [Numeral.isInteger, hall])]
        rfl
      · rw [if_neg hall, value?_of_not_isInteger (by simp [Numeral.isInteger, hall])]
        exact toOption_finish ..

end Cutting

section Cut

variable {c c' : Cursor} {j : Json} {negative : Bool} {t u v w r : List Glyph} {ds : List Nat} {m : Numeral}

theorem DigitsAt.head (h : DigitsAt t ds r) :
    ∃ x u, t = .char x :: u ∧ x.isDigit ∧ ds.head? = some (x.toNat - 48) := by
  cases h with
  | last hx => exact ⟨_, _, rfl, hx, rfl⟩
  | more hx _ => exact ⟨_, _, rfl, hx, rfl⟩

theorem DigitsAt.ne_nil (h : DigitsAt t ds r) : ds ≠ [] := by
  cases h <;> exact List.cons_ne_nil _ _

def NoDigit (t : List Glyph) : Prop := ∀ x u, t = .char x :: u → x.isDigit = false

theorem takeDigitsFrom_of_digitsAt (h : DigitsAt t ds r) (hr : NoDigit r) (column line : Nat)
    (done : List Nat) :
    (Cursor.takeDigitsFrom column line done t).1 = done.reverse ++ ds ∧
      (Cursor.takeDigitsFrom column line done t).2.rest = r := by
  induction h generalizing column done with
  | @last x r hx =>
    rw [Cursor.takeDigitsFrom, if_pos hx]
    cases r with
    | nil => simp [Cursor.takeDigitsFrom]
    | cons g r =>
      cases g with
      | char y => simp [Cursor.takeDigitsFrom, hr y r rfl]
      | stray b => simp [Cursor.takeDigitsFrom]
  | more hx _ ih =>
    rw [Cursor.takeDigitsFrom, if_pos hx]
    obtain ⟨hds, hrest⟩ := ih hr (column + 1) _
    exact ⟨by rw [hds]; simp, hrest⟩

theorem takeDigits_of_digitsAt (h : DigitsAt c.rest ds r) (hr : NoDigit r) :
    c.takeDigits.1 = ds ∧ c.takeDigits.2.rest = r := by
  simpa [Cursor.takeDigits] using takeDigitsFrom_of_digitsAt h hr c.pos.column c.pos.line []

theorem digit?_of_digitsAt (h : DigitsAt c.rest ds r) : c.digit? = ds.head? := by
  obtain ⟨x, u, hrest, hx, hhead⟩ := h.head
  rw [hhead]
  exact digit?_eq_some_iff.mpr ⟨x, u, hrest, hx, rfl⟩

theorem digitsAt_of_digit? (hd : c.digit?.isSome) :
    DigitsAt c.rest c.takeDigits.1 c.takeDigits.2.rest :=
  digitsAt_of_takeDigits rfl (ne_nil_of_takeDigits hd rfl)

theorem DigitsAt.tail {d : Nat} (h : DigitsAt c.rest (d :: ds) r) :
    ds = [] ∨ DigitsAt c.next.rest ds r := by
  obtain ⟨x, u, hrest, -, -⟩ := h.head
  rw [Cursor.rest_next hrest]
  rw [hrest] at h
  cases h with
  | last => exact .inl rfl
  | more _ h => exact .inr h

theorem DigitsAt.rest_of_one {d : Nat} (h : DigitsAt t [d] r) : ∃ x, t = .char x :: r := by
  generalize hds : [d] = ds at h
  cases h with
  | last => exact ⟨_, rfl⟩
  | more _ h => exact absurd (List.cons.inj hds).2.symm h.ne_nil

theorem tidy_of_not_leads (h : DigitsAt c.rest ds r) (hlead : ¬(c.digit? = some 0 ∧ c.next.digit?.isSome)) :
    ds = [0] ∨ ds.head? ≠ some 0 := by
  rw [digit?_of_digitsAt h] at hlead
  obtain ⟨d, ds, rfl⟩ := List.exists_cons_of_ne_nil h.ne_nil
  obtain rfl | hmore := h.tail
  · by_cases hd : d = 0 <;> simp [hd]
  · refine .inr fun hzero => hlead ⟨hzero, ?_⟩
    rw [digit?_of_digitsAt hmore]
    simpa using hmore.ne_nil

theorem not_leads_of_tidy (h : DigitsAt c.rest ds r) (hr : NoDigit r)
    (htidy : ds = [0] ∨ ds.head? ≠ some 0) :
    ¬(c.digit? = some 0 ∧ c.next.digit?.isSome) := by
  rintro ⟨hzero, hnext⟩
  rw [digit?_of_digitsAt h] at hzero
  obtain rfl := htidy.resolve_right (not_not_intro hzero)
  obtain ⟨n, hn⟩ := Option.isSome_iff_exists.mp hnext
  obtain ⟨x, u, hrest, hx, -⟩ := digit?_eq_some_iff.mp hn
  obtain ⟨y, hy⟩ := h.rest_of_one
  rw [Cursor.rest_next hy] at hrest
  exact absurd hx (by simp [hr x u hrest])

theorem exponentAt_of_scan {e : Option (Bool × List Nat)} (h : scanExponent c = some (e, c')) :
    ExponentAt c.rest e c'.rest := by
  unfold scanExponent at h
  split_ifs at h with hletter hd
  · obtain ⟨rfl, rfl⟩ := Prod.mk.inj (Option.some.inj h)
    obtain ⟨x, hx, hpeek⟩ : ∃ x ∈ ['e', 'E'], c.peek = some x := by
      rcases Bool.or_eq_true_iff.mp hletter with h | h
      · exact ⟨'e', by simp, eq_of_beq h⟩
      · exact ⟨'E', by simp, eq_of_beq h⟩
    have hdigits := digitsAt_of_digit? hd
    rw [Cursor.rest_eq_of_peek hpeek]
    by_cases hm : c.next.peek = some '-'
    · have hs := ExponentAt.signed (s := '-') hx (by simp) (by simpa [afterSign, hm] using hdigits)
      simpa [afterSign, hm, Cursor.rest_eq_of_peek hm] using hs
    · by_cases hp : c.next.peek = some '+'
      · have hs := ExponentAt.signed (s := '+') hx (by simp) (by simpa [afterSign, hp] using hdigits)
        simpa [afterSign, hp, Cursor.rest_eq_of_peek hp] using hs
      · have hplain := ExponentAt.plain hx (by simpa [afterSign, hm, hp] using hdigits)
        have hminus : (c.next.peek == some '-') = false := by simpa using hm
        simpa [afterSign, hm, hp, hminus] using hplain
  · obtain ⟨rfl, rfl⟩ := Prod.mk.inj (Option.some.inj h)
    exact .none

theorem fractionAt_of_scan (h : scanFraction c = some (ds, c')) : FractionAt c.rest ds c'.rest := by
  unfold scanFraction at h
  split_ifs at h with hpoint hnone
  · have htake : c.next.takeDigits = (ds, c') := Option.some.inj h
    rw [Cursor.rest_eq_of_peek (eq_of_beq hpoint)]
    exact .some (digitsAt_of_takeDigits htake (by simpa [htake] using hnone))
  · obtain ⟨rfl, rfl⟩ := Prod.mk.inj (Option.some.inj h)
    exact .none

theorem numeral_of_scan (h : scanNumeral negative c = some (m, c')) :
    m.negative = negative ∧ m.Tidy ∧ ∃ v w, DigitsAt c.rest m.whole v ∧ FractionAt v m.fraction w ∧
      ExponentAt w m.exponent c'.rest := by
  unfold scanNumeral at h
  split_ifs at h with hfirst
  obtain ⟨⟨fs, u⟩, hf, h⟩ := Option.bind_eq_some_iff.mp h
  obtain ⟨⟨e, v⟩, he, h⟩ := Option.map_eq_some_iff.mp h
  obtain ⟨rfl, rfl⟩ := Prod.mk.inj h
  simp only [Bool.or_eq_true, Bool.and_eq_true, decide_eq_true_eq, not_or] at hfirst
  have hd : c.digit?.isSome := by simpa [Option.isSome_iff_ne_none] using hfirst.1
  have hdigits := digitsAt_of_digit? hd
  exact ⟨rfl, tidy_of_not_leads hdigits hfirst.2, _, _, hdigits, fractionAt_of_scan hf, exponentAt_of_scan he⟩

def Ends (t : List Glyph) : Prop := ∀ x u, t = .char x :: u → x.isDigit = false ∧ x ∉ ['.', 'e', 'E']

theorem Ends.noDigit (h : Ends t) : NoDigit t := fun x u ht => (h x u ht).1

theorem noDigit_cons {x : Char} (h : x.isDigit = false) : NoDigit (.char x :: t) := by
  rintro y u hy
  obtain ⟨hxy, -⟩ := List.cons.inj hy
  obtain rfl := Text.Glyph.char.inj hxy
  exact h

theorem peek_ne_of_rest {x : Char} (h : ∀ u, c.rest ≠ .char x :: u) : (c.peek == some x) = false := by
  refine beq_eq_false_iff_ne.mpr fun hp => ?_
  obtain ⟨u, hu⟩ := Cursor.peek_eq_some_iff.mp hp
  exact h u hu

theorem scan_of_digits {x : Char} {b : Bool} (hx : x ∈ ['e', 'E']) (hc : c.rest = .char x :: t)
    (hb : (c.next.peek == some '-') = b) (h : DigitsAt (afterSign c).rest ds r) (hr : Ends r) :
    ∃ c', scanExponent c = some (some (b, ds), c') ∧ c'.rest = r := by
  obtain ⟨hds, hrest⟩ := takeDigits_of_digitsAt h hr.noDigit
  refine ⟨(afterSign c).takeDigits.2, ?_, hrest⟩
  have hpeek : c.peek = some x := Cursor.peek_eq_some_iff.mpr ⟨t, hc⟩
  have hletter : (c.peek == some 'e' || c.peek == some 'E') = true := by
    simpa [hpeek] using hx
  have hd : (afterSign c).digit?.isSome := by
    rw [digit?_of_digitsAt h]
    simpa using h.ne_nil
  rw [scanExponent, if_pos hletter, if_pos hd, hb, hds]

theorem scan_of_exponentAt {e : Option (Bool × List Nat)} (h : ExponentAt c.rest e r) (hr : Ends r) :
    ∃ c', scanExponent c = some (e, c') ∧ c'.rest = r := by
  generalize hc : c.rest = t at h
  cases h with
  | none =>
    refine ⟨c, scanExponent_of_no_letter ?_, hc⟩
    have hletter : ∀ x ∈ ['e', 'E'], (c.peek == some x) = false := by
      intro x hx
      refine peek_ne_of_rest fun u hu => (hr x u (hc ▸ hu)).2 ?_
      simp only [List.mem_cons, List.not_mem_nil, or_false] at hx ⊢
      exact .inr hx
    simp [hletter 'e', hletter 'E']
  | @plain x t _ ds hx hds =>
    have hsign : c.next.peek ≠ some '-' ∧ c.next.peek ≠ some '+' := by
      obtain ⟨y, u, rfl, hy, -⟩ := hds.head
      constructor <;>
      · intro hp
        rw [Cursor.peek_eq_some_iff, Cursor.rest_next hc] at hp
        obtain ⟨v, hv⟩ := hp
        obtain rfl := Text.Glyph.char.inj (List.cons.inj hv).1
        exact absurd hy (by decide)
    have hafter : afterSign c = c.next := by simp [afterSign, hsign]
    exact scan_of_digits hx hc (by simp [hsign]) (by rwa [hafter, Cursor.rest_next hc]) hr
  | @signed x s t _ ds hx hs hds =>
    have hnext : c.next.rest = .char s :: t := Cursor.rest_next hc
    have hpeek : c.next.peek = some s := Cursor.peek_eq_some_iff.mpr ⟨t, hnext⟩
    have hafter : afterSign c = c.next.next := by
      simp only [List.mem_cons, List.not_mem_nil, or_false] at hs
      rcases hs with rfl | rfl <;> simp [afterSign, hpeek]
    exact scan_of_digits hx hc (by simp [hpeek]) (by rwa [hafter, Cursor.rest_next hnext]) hr

theorem scan_of_fractionAt (h : FractionAt c.rest ds r) (hr : NoDigit r)
    (hpoint : ∀ u, r ≠ .char '.' :: u) :
    ∃ c', scanFraction c = some (ds, c') ∧ c'.rest = r := by
  generalize hc : c.rest = t at h
  cases h with
  | none => exact ⟨c, by simp [scanFraction, peek_ne_of_rest (hc ▸ hpoint)], hc⟩
  | some h =>
    have hpeek : c.peek = some '.' := Cursor.peek_eq_some_iff.mpr ⟨_, hc⟩
    rw [← Cursor.rest_next hc] at h
    obtain ⟨hds, hrest⟩ := takeDigits_of_digitsAt h hr
    refine ⟨c.next.takeDigits.2, ?_, hrest⟩
    have hne : c.next.takeDigits.1.isEmpty = false := by simp [hds, h.ne_nil]
    simp [scanFraction, hpeek, hne, ← hds]

theorem ExponentAt.noDigit {e : Option (Bool × List Nat)} (h : ExponentAt t e r) (hr : Ends r) :
    NoDigit t := by
  have hletter : ∀ x ∈ ['e', 'E'], x.isDigit = false := by simp
  cases h with
  | none => exact hr.noDigit
  | plain hx _ => exact noDigit_cons (hletter _ hx)
  | signed hx _ _ => exact noDigit_cons (hletter _ hx)

theorem ExponentAt.noPoint {e : Option (Bool × List Nat)} (h : ExponentAt t e r) (hr : Ends r)
    (u : List Glyph) : t ≠ .char '.' :: u := by
  rintro rfl
  cases h with
  | none => exact (hr '.' u rfl).2 (by simp)
  | plain hx _ => exact absurd hx (by decide)
  | signed hx _ _ => exact absurd hx (by decide)

theorem FractionAt.noDigit (h : FractionAt t ds r) (hr : NoDigit r) : NoDigit t := by
  cases h with
  | none => exact hr
  | some _ => exact noDigit_cons (by decide)

theorem scan_of_numeral (htidy : m.Tidy) (hdigits : DigitsAt c.rest m.whole v)
    (hf : FractionAt v m.fraction w) (he : ExponentAt w m.exponent r) (hr : Ends r) :
    ∃ c', scanNumeral m.negative c = some (m, c') ∧ c'.rest = r := by
  have hw : NoDigit w := he.noDigit hr
  have hv : NoDigit v := hf.noDigit hw
  obtain ⟨hwhole, hrest⟩ := takeDigits_of_digitsAt hdigits hv
  rw [← hrest] at hf
  obtain ⟨u, hu, rfl⟩ := scan_of_fractionAt hf hw (he.noPoint hr)
  obtain ⟨c', hc', hend⟩ := scan_of_exponentAt he hr
  refine ⟨c', ?_, hend⟩
  have hfirst : ¬(c.digit?.isNone || (decide (c.digit? = some 0) && c.next.digit?.isSome)) = true := by
    have hlead := not_leads_of_tidy hdigits hv htidy
    have hsome : c.digit? ≠ none := by rw [digit?_of_digitsAt hdigits]; simpa using hdigits.ne_nil
    simpa [hsome] using hlead
  rw [scanNumeral, if_neg hfirst, hu, Option.bind_some, hc', hwhole]
  rfl

end Cut

section Numbers

variable {c c' : Cursor} {j : Json} {negative : Bool} {t u v w r : List Glyph} {ds : List Nat} {m : Numeral}

theorem numeralAt_of_readNumber (hs : SignAt t negative c.rest)
    (h : readNumber negative c = .ok (j, c')) :
    ∃ m, NumeralAt t m c'.rest ∧ m.value? = some j := by
  have hread := toOption_readNumber negative c
  rw [h] at hread
  obtain ⟨⟨m, after⟩, hscan, hvalue⟩ := Option.bind_eq_some_iff.mp hread.symm
  obtain ⟨j', hj, hp⟩ := Option.map_eq_some_iff.mp hvalue
  obtain ⟨rfl, rfl⟩ := Prod.mk.inj hp
  obtain ⟨rfl, htidy, v, w, hdigits, hf, he⟩ := numeral_of_scan hscan
  exact ⟨m, ⟨htidy, c.rest, v, w, hs, hdigits, hf, he⟩, hj⟩

theorem readNumber_of_numeral (htidy : m.Tidy) (hdigits : DigitsAt c.rest m.whole v)
    (hf : FractionAt v m.fraction w) (he : ExponentAt w m.exponent r) (hr : Ends r) (hj : m.value? = some j) :
    ∃ c', readNumber m.negative c = .ok (j, c') ∧ c'.rest = r := by
  obtain ⟨c', hscan, hrest⟩ := scan_of_numeral htidy hdigits hf he hr
  refine ⟨c', toOption_eq_some ?_, hrest⟩
  rw [toOption_readNumber, hscan, Option.bind_some, hj]
  rfl

end Numbers

section Strings

variable {c c' : Cursor} {t u r : List Glyph} {x : Char} {cs done : List Char} {fuel n : Nat}

theorem hexAt_of_readHex (h : readHex c = .ok (n, c')) : HexAt c.rest n c'.rest := by
  unfold readHex at h
  dsimp only at h
  split at h
  · rename_i g₁ g₂ g₃ g₄ rest hrest
    split at h
    · rename_i ha hb hx hy
      obtain ⟨rfl, rfl⟩ := Prod.mk.inj (Except.ok.inj h)
      rw [hrest]
      exact .mk ha hb hx hy
    · split at h <;> cases h
  · split at h <;> cases h

theorem readHex_of_hexAt (h : HexAt c.rest n r) : ∃ c', readHex c = .ok (n, c') ∧ c'.rest = r := by
  generalize hc : c.rest = t at h
  cases h with
  | mk ha hb hx hy =>
    refine ⟨⟨r, ⟨c.pos.line, c.pos.column + 4⟩⟩, ?_, rfl⟩
    simp only [readHex, hc, ha, hb, hx, hy]

theorem rest_of_expectInEscape (h : expectInEscape x c = .ok c') : c.rest = .char x :: c'.rest := by
  unfold expectInEscape at h
  split_ifs at h with hend hpeek
  obtain rfl := Except.ok.inj h
  exact Cursor.rest_eq_of_peek hpeek

theorem expectInEscape_of_rest (h : c.rest = .char x :: t) :
    ∃ c', expectInEscape x c = .ok c' ∧ c'.rest = t := by
  have hpeek : c.peek = some x := Cursor.peek_eq_some_iff.mpr ⟨t, h⟩
  have hend : c.atEnd = false := by simp [Cursor.atEnd, h]
  exact ⟨c.next, by simp [expectInEscape, hpeek, hend], Cursor.rest_next h⟩

theorem charAt_of_readUnicodeEscape (h : readUnicodeEscape c = .ok (x, c')) :
    CharAt (.char '\\' :: .char 'u' :: c.rest) x c'.rest := by
  obtain ⟨⟨n, c₁⟩, hn, h⟩ := bind_eq_ok h
  have hhex := hexAt_of_readHex hn
  dsimp only at h
  by_cases hlow : 0xDC00 ≤ n ∧ n ≤ 0xDFFF
  · rw [if_pos hlow] at h
    cases h
  rw [if_neg hlow] at h
  by_cases hplain : n < 0xD800 ∨ 0xDBFF < n
  · rw [if_pos hplain] at h
    obtain ⟨rfl, rfl⟩ := Prod.mk.inj (Except.ok.inj h)
    exact .numbered hhex (by omega)
  · rw [if_neg hplain] at h
    obtain ⟨c₂, h₂, h⟩ := bind_eq_ok h
    obtain ⟨c₃, h₃, h⟩ := bind_eq_ok h
    obtain ⟨⟨low, c₄⟩, hl, h⟩ := bind_eq_ok h
    by_cases hrange : low < 0xDC00 ∨ 0xDFFF < low
    · rw [if_pos hrange] at h
      cases h
    rw [if_neg hrange] at h
    obtain ⟨rfl, rfl⟩ := Prod.mk.inj (Except.ok.inj h)
    rw [rest_of_expectInEscape h₂, rest_of_expectInEscape h₃] at hhex
    exact .paired hhex (by omega) (by omega) (hexAt_of_readHex hl) (by omega) (by omega)

theorem readUnicodeEscape_of_numbered (h : HexAt c.rest n r) (hn : n < 0xD800 ∨ 0xDFFF < n) :
    ∃ c', readUnicodeEscape c = .ok (Char.ofNat n, c') ∧ c'.rest = r := by
  obtain ⟨c', hc', hrest⟩ := readHex_of_hexAt h
  refine ⟨c', ?_, hrest⟩
  rw [readUnicodeEscape, hc']
  change (if 0xDC00 ≤ n ∧ n ≤ 0xDFFF then _ else _) = _
  rw [if_neg (by omega), if_pos (by omega)]
  rfl

theorem readUnicodeEscape_of_paired {low : Nat} (h : HexAt c.rest n (.char '\\' :: .char 'u' :: u))
    (hlow : HexAt u low r) (hn : 0xD800 ≤ n ∧ n ≤ 0xDBFF) (hl : 0xDC00 ≤ low ∧ low ≤ 0xDFFF) :
    ∃ c', readUnicodeEscape c =
      .ok (Char.ofNat ((n - 0xD800) * 1024 + (low - 0xDC00) + 0x10000), c') ∧ c'.rest = r := by
  obtain ⟨c₁, h₁, hr₁⟩ := readHex_of_hexAt h
  obtain ⟨c₂, h₂, hr₂⟩ := expectInEscape_of_rest hr₁
  obtain ⟨c₃, h₃, rfl⟩ := expectInEscape_of_rest hr₂
  obtain ⟨c', hc', hrest⟩ := readHex_of_hexAt hlow
  refine ⟨c', ?_, hrest⟩
  rw [readUnicodeEscape, h₁]
  change (if 0xDC00 ≤ n ∧ n ≤ 0xDFFF then _ else _) = _
  rw [if_neg (by omega), if_neg (by omega), h₂]
  change (expectInEscape 'u' c₂ >>= _) = _
  rw [h₃]
  change (readHex c₃ >>= _) = _
  rw [hc']
  change (if low < 0xDC00 ∨ 0xDFFF < low then _ else _) = _
  rw [if_neg (by omega)]
  rfl

theorem charAt_of_readEscape (h : readEscape c = .ok (x, c')) : CharAt (.char '\\' :: c.rest) x c'.rest := by
  unfold readEscape at h
  split_ifs at h with hend
  split at h
  · rename_i hpeek
    rw [Cursor.rest_eq_of_peek hpeek]
    exact charAt_of_readUnicodeEscape h
  · rename_i y hy hpeek
    split at h
    · rename_i z hz
      obtain ⟨rfl, rfl⟩ := Prod.mk.inj (Except.ok.inj h)
      rw [Cursor.rest_eq_of_peek hpeek]
      exact .named hz
    · cases h
  · cases h

theorem readEscape_of_u (h : c.rest = .char 'u' :: t) : readEscape c = readUnicodeEscape c.next := by
  have hpeek : c.peek = some 'u' := Cursor.peek_eq_some_iff.mpr ⟨t, h⟩
  have hend : c.atEnd = false := by simp [Cursor.atEnd, h]
  simp [readEscape, hpeek, hend]

theorem readStringFrom_of_charAt (h : CharAt c.rest x r) :
    ∃ c', (∀ fuel done, readStringFrom (fuel + 1) done none c = readStringFrom fuel (x :: done) none c') ∧
      c'.rest = r := by
  generalize hc : c.rest = t at h
  have hescaped : ∀ {u}, t = .char '\\' :: u → ∀ {y c'}, readEscape c.next = .ok (y, c') → ∀ fuel done,
      readStringFrom (fuel + 1) done none c = readStringFrom fuel (y :: done) none c' := by
    intro u ht y c' hread fuel done
    rw [readStringFrom, hc, ht]
    simp [hread]
  cases h with
  | plain hx hquote hslash =>
    refine ⟨c.next, fun fuel done => ?_, Cursor.rest_next hc⟩
    rw [readStringFrom, hc]
    simp [hquote, hslash, Nat.not_lt.mpr hx]
  | @named y _ _ hy =>
    have hnext : c.next.rest = .char y :: r := Cursor.rest_next hc
    refine ⟨c.next.next, hescaped rfl ?_, Cursor.rest_next hnext⟩
    have hpeek : c.next.peek = some y := Cursor.peek_eq_some_iff.mpr ⟨r, hnext⟩
    have hend : c.next.atEnd = false := by simp [Cursor.atEnd, hnext]
    have hu : y ≠ 'u' := by
      rintro rfl
      cases hy
    unfold readEscape
    rw [if_neg (by simp [hend]), hpeek]
    split
    · rename_i heq
      exact absurd (Option.some.inj heq) hu
    · rename_i heq
      rw [← Option.some.inj heq, hy]
    · rename_i heq
      cases heq
  | @numbered t _ n hhex hn =>
    have hnext : c.next.rest = .char 'u' :: t := Cursor.rest_next hc
    obtain ⟨c', hc', hrest⟩ := readUnicodeEscape_of_numbered ((Cursor.rest_next hnext).symm ▸ hhex) hn
    exact ⟨c', hescaped rfl ((readEscape_of_u hnext).trans hc'), hrest⟩
  | @paired t u _ n low hhex hn₁ hn₂ hlow hl₁ hl₂ =>
    have hnext : c.next.rest = .char 'u' :: t := Cursor.rest_next hc
    obtain ⟨c', hc', hrest⟩ := readUnicodeEscape_of_paired ((Cursor.rest_next hnext).symm ▸ hhex) hlow
      ⟨hn₁, hn₂⟩ ⟨hl₁, hl₂⟩
    exact ⟨c', hescaped rfl ((readEscape_of_u hnext).trans hc'), hrest⟩

theorem CharAt.lt (h : CharAt t x r) : r.length < t.length := by
  cases h with
  | plain => simp
  | named => simp only [List.length_cons]; omega
  | numbered h _ => cases h; simp only [List.length_cons]; omega
  | paired h _ _ hl _ _ => cases h; cases hl; simp only [List.length_cons]; omega

theorem CharsAt.lt (h : CharsAt t cs r) : r.length < t.length := by
  induction h with
  | close => simp
  | more hx _ ih => exact Nat.lt_trans ih hx.lt

theorem charsAt_of_readStringFrom {s : String} {broken : Option Position}
    (h : readStringFrom fuel done broken c = .ok (s, c')) :
    broken = none ∧ ∃ cs, CharsAt c.rest cs c'.rest ∧ s = String.ofList (done.reverse ++ cs) := by
  induction fuel generalizing done broken c with
  | zero => cases h
  | succ fuel ih =>
    unfold readStringFrom at h
    split at h
    · cases h
    · obtain ⟨hbroken, -⟩ := ih h
      simp at hbroken
    · rename_i x t hrest
      have hpeek : c.peek = some x := Cursor.peek_eq_some_iff.mpr ⟨t, hrest⟩
      rw [Cursor.rest_eq_of_peek hpeek]
      split_ifs at h with hquote hslash hcontrol
      · split at h
        · cases h
        · obtain ⟨rfl, rfl⟩ := Prod.mk.inj (Except.ok.inj h)
          rw [hquote]
          exact ⟨rfl, [], .close, by simp⟩
      · split at h
        · rename_i y c₁ hy
          obtain ⟨hbroken, cs, hcs, hs⟩ := ih h
          rw [hslash]
          exact ⟨hbroken, y :: cs, .more (charAt_of_readEscape hy) hcs, by simp [hs]⟩
        · cases h
      · obtain ⟨hbroken, cs, hcs, hs⟩ := ih h
        exact ⟨hbroken, x :: cs, .more (.plain (by omega) hquote hslash) hcs, by simp [hs]⟩

theorem readStringFrom_of_charsAt (h : CharsAt t cs r) {c : Cursor} (hc : c.rest = t)
    (hfuel : t.length ≤ fuel) (done : List Char) :
    ∃ c', readStringFrom fuel done none c = .ok (String.ofList (done.reverse ++ cs), c') ∧
      c'.rest = r := by
  induction h generalizing fuel done c with
  | @close r =>
    obtain ⟨fuel, rfl⟩ : ∃ k, fuel = k + 1 := ⟨fuel - 1, by simp at hfuel; omega⟩
    refine ⟨c.next, ?_, Cursor.rest_next hc⟩
    rw [readStringFrom, hc]
    simp
  | @more t u r x xs hx hxs ih =>
    have hlt := hx.lt
    obtain ⟨fuel, rfl⟩ : ∃ k, fuel = k + 1 := ⟨fuel - 1, by omega⟩
    obtain ⟨c₁, hread, hrest⟩ := readStringFrom_of_charAt (hc.symm ▸ hx)
    obtain ⟨c', hc', hend⟩ := ih hrest (show u.length ≤ fuel by omega) (x :: done)
    exact ⟨c', by rw [hread, hc']; simp, hend⟩

theorem charsAt_of_readString {s : String} (h : readString fuel c = .ok (s, c')) :
    ∃ cs, CharsAt c.rest cs c'.rest ∧ s = String.ofList cs := by
  obtain ⟨-, cs, hcs, hs⟩ := charsAt_of_readStringFrom h
  exact ⟨cs, hcs, by simpa using hs⟩

theorem readString_of_charsAt (h : CharsAt c.rest cs r) (hfuel : c.rest.length ≤ fuel) :
    ∃ c', readString fuel c = .ok (String.ofList cs, c') ∧ c'.rest = r := by
  simpa [readString] using readStringFrom_of_charsAt h rfl hfuel []

end Strings

end EndpointGate.Json
