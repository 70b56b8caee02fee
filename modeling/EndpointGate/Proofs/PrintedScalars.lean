import EndpointGate.Json.Printer
import EndpointGate.Proofs.ValueReading
import Mathlib.Data.Nat.Digits.Lemmas

/-! Strings and natural numbers as they are printed. The grammar has what is printed as JSON for what was
printed: each character is escaped so that it is read again, and a number has no zero before its other digits. -/

namespace EndpointGate.Json

open Text (Glyph)

def printed (j : Json) : List Glyph := (chars j).map .char

section Strings

variable {c : Char} {r : List Glyph}

theorem charAt_escapeChar (c : Char) (r : List Glyph) : CharAt ((escapeChar c).map .char ++ r) c r := by
  have hnumber {n : Nat} (h : c.toNat = n) : c = Char.ofNat n := by rw [← h, Char.ofNat_toNat]
  unfold escapeChar
  split_ifs with hquote hslash hback hfeed hnewline hreturn htab hcontrol
  · subst hquote; exact .named rfl
  · subst hslash; exact .named rfl
  · exact hnumber hback ▸ .named rfl
  · exact hnumber hfeed ▸ .named rfl
  · subst hnewline; exact .named rfl
  · subst hreturn; exact .named rfl
  · subst htab; exact .named rfl
  · rw [hexOctet, Nat.mod_eq_of_lt (by omega)]
    exact .octet (by omega) r
  · exact .plain (Nat.le_of_not_lt hcontrol) hquote hslash

theorem map_stringChars (s : String) (r : List Glyph) : (stringChars s).map .char ++ r =
    .char '"' :: ((s.toList.flatMap escapeChar).map .char ++ .char '"' :: r) := by
  simp [stringChars]

theorem printed_str (s : String) (r : List Glyph) : printed (.str s) ++ r =
    .char '"' :: ((s.toList.flatMap escapeChar).map .char ++ .char '"' :: r) := by
  rw [printed, chars, map_stringChars]

end Strings

section Numbers

open NumberStyle (digitChar digitsUp naturalDigits)

theorem digitsUp_eq {fuel n : Nat} (hn : 0 < n) (h : n < fuel) :
    digitsUp fuel n = (Nat.digits 10 n).map digitChar := by
  induction fuel generalizing n with
  | zero => omega
  | succ fuel ih =>
    rw [digitsUp, Nat.digits_def' (by decide) hn, List.map_cons]
    have hfirst : digitChar n = digitChar (n % 10) := by simp [digitChar]
    by_cases hsmall : n < 10
    · rw [if_pos hsmall, hfirst, Nat.div_eq_of_lt hsmall]
      rfl
    · rw [if_neg hsmall, hfirst, ih (by omega) (by omega)]

def digitsDown (n : Nat) : List Nat := if n = 0 then [0] else (Nat.digits 10 n).reverse

theorem naturalDigits_eq (n : Nat) : naturalDigits n = (digitsDown n).map digitChar := by
  unfold digitsDown
  split_ifs with hzero
  · rw [hzero]
    rfl
  · rw [naturalDigits, digitsUp_eq (Nat.pos_of_ne_zero hzero) (Nat.lt_succ_self n), List.map_reverse]

theorem digitsDown_lt {n d : Nat} (h : d ∈ digitsDown n) : d < 10 := by
  unfold digitsDown at h
  split_ifs at h
  · rw [List.mem_singleton.mp h]
    decide
  · exact Nat.digits_lt_base (by decide) (List.mem_reverse.mp h)

theorem digitsDown_ne_nil (n : Nat) : digitsDown n ≠ [] := by
  unfold digitsDown
  split_ifs with hzero
  · exact List.cons_ne_nil _ _
  · simpa using Nat.digits_ne_nil_iff_ne_zero.mpr hzero

theorem digitsDown_tidy (n : Nat) : digitsDown n = [0] ∨ (digitsDown n).head? ≠ some 0 := by
  unfold digitsDown
  split_ifs with hzero
  · exact .inl rfl
  · refine .inr fun hhead => ?_
    rw [List.head?_reverse, List.getLast?_eq_some_getLast (Nat.digits_ne_nil_iff_ne_zero.mpr hzero)] at hhead
    exact Nat.getLast_digit_ne_zero 10 hzero (Option.some.inj hhead)

theorem foldl_digitsDown (n : Nat) : (digitsDown n).foldl (fun m d => m * 10 + d) 0 = n := by
  unfold digitsDown
  split_ifs with hzero
  · exact hzero.symm
  · rw [List.foldl_reverse]
    have hfold := Nat.ofDigits_digits 10 n
    rw [Nat.ofDigits_eq_foldr] at hfold
    simpa [Nat.mul_comm, Nat.add_comm] using hfold

theorem le_foldl (m : Nat) (ds : List Nat) : m ≤ ds.foldl (fun m d => m * 10 + d) m := by
  induction ds generalizing m with
  | nil => exact Nat.le_refl m
  | cons d ds ih => exact Nat.le_trans (by omega) (ih (m * 10 + d))

theorem gatherDigits_eq {m : Nat} {ds : List Nat}
    (h : ds.foldl (fun m d => m * 10 + d) m < 18446744073709551616) :
    gatherDigits m ds = (ds.foldl (fun m d => m * 10 + d) m, 0) := by
  induction ds generalizing m with
  | nil => rfl
  | cons d ds ih =>
    have hfits : fits (m * 10 + d) = true := decide_eq_true (Nat.lt_of_le_of_lt (le_foldl _ ds) h)
    rw [gatherDigits, if_pos hfits]
    exact ih h

theorem isDigit_digitChar {d : Nat} (h : d < 10) : (digitChar d).isDigit ∧ (digitChar d).toNat - 48 = d := by
  revert d
  decide

theorem digitsAt_digitChar {ds : List Nat} (hne : ds ≠ []) (hlt : ∀ d ∈ ds, d < 10) (r : List Glyph) :
    DigitsAt ((ds.map digitChar).map .char ++ r) ds r := by
  induction ds with
  | nil => exact absurd rfl hne
  | cons d ds ih =>
    obtain ⟨hd, hvalue⟩ := isDigit_digitChar (hlt d List.mem_cons_self)
    cases ds with
    | nil =>
      have hlast := DigitsAt.last (r := r) hd
      rwa [hvalue] at hlast
    | cons e ds =>
      have hmore := DigitsAt.more hd (ih (List.cons_ne_nil _ _) fun x hx => hlt x (List.mem_cons_of_mem d hx))
      rwa [hvalue] at hmore

theorem chars_nat (n : Nat) : chars (.int n) = (digitsDown n).map digitChar := by
  rw [chars, intChars, if_neg (by omega), Int.natAbs_natCast, naturalDigits_eq]

theorem opens_nat (n : Nat) : ∃ x cs, chars (.int n) = x :: cs ∧ x.isDigit := by
  obtain ⟨d, ds, hds⟩ := List.exists_cons_of_ne_nil (digitsDown_ne_nil n)
  have hd : d < 10 := digitsDown_lt (hds ▸ List.mem_cons_self)
  exact ⟨digitChar d, ds.map digitChar, by rw [chars_nat, hds, List.map_cons], (isDigit_digitChar hd).1⟩

def numeral (n : Nat) : Numeral := ⟨false, digitsDown n, [], none⟩

theorem digitsAt_printed_nat (n : Nat) (r : List Glyph) :
    DigitsAt (printed (.int n) ++ r) (numeral n).whole r := by
  rw [printed, chars_nat]
  exact digitsAt_digitChar (digitsDown_ne_nil n) (fun _ => digitsDown_lt) r

theorem value?_numeral {n : Nat} (h : n < 18446744073709551616) : (numeral n).value? = some (.int n) := by
  have hfits : (digitsDown n).foldl (fun m d => m * 10 + d) 0 < 18446744073709551616 := by
    rwa [foldl_digitsDown]
  have hgathered := gatherDigits_eq hfits
  rw [foldl_digitsDown] at hgathered
  simp [numeral, Numeral.value?, Numeral.isInteger, hgathered, integer]

end Numbers

end EndpointGate.Json
