import EndpointGate.Proofs.NearestDouble
import EndpointGate.Sql.Value

/-! JSON integers in the database. Those of 63 bits and a sign go in as they are; the larger ones go in as
the nearest double, a multiple of 2048 that stands for all the integers around it. -/

namespace EndpointGate.Sql.Value

def InJson (n : Int) : Prop := -9223372036854775808 ≤ n ∧ n < 18446744073709551616

instance (n : Int) : Decidable (InJson n) := inferInstanceAs (Decidable (_ ∧ _))

/-- An integer in full: as a number of the database, and as its digits beyond those. -/
def inFull (n : Int) : Value :=
  if isInt64 n then .integer n else .ofString (toString n)

def steps (n : Int) : Nat := nearestEven n.toNat 2048

theorem isInt64_iff {n : Int} (hn : InJson n) : isInt64 n = true ↔ n < 9223372036854775808 := by
  obtain ⟨hlow, -⟩ := hn
  rw [isInt64, Bool.and_eq_true, decide_eq_true_eq, decide_eq_true_eq, leastInteger, greatestInteger]
  omega

section Large

variable {n : Int} (hn : InJson n) (large : 9223372036854775808 ≤ n)

include hn large

theorem ofJson_large : ofJson (.int n) = .real (.ofInt n) := by
  have h : isInt64 n = false := by
    rw [Bool.eq_false_iff, Ne, isInt64_iff hn]
    omega
  rw [ofJson, h]
  rfl

omit hn in
theorem steps_near : -1024 ≤ 2048 * (steps n : Int) - n ∧ 2048 * (steps n : Int) - n ≤ 1024 := by
  have hnear := nearestEven_near n.toNat (show 0 < 2048 by decide)
  rw [steps]
  omega

theorem bits_large : (Binary64.ofInt n).bits.toNat = 1085 * 2 ^ 52 + steps n := by
  obtain ⟨m, rfl⟩ := Int.eq_ofNat_of_zero_le (show 0 ≤ n by omega)
  obtain ⟨-, hi⟩ := hn
  exact Binary64.bits_ofInt (k := 63) (by decide) (by decide) (by omega) (by omega)

theorem value_large : (Binary64.ofInt n).isFinite = true ∧ (Binary64.ofInt n).isIntegral = true ∧
    (Binary64.ofInt n).truncate = 2048 * steps n := by
  obtain ⟨m, rfl⟩ := Int.eq_ofNat_of_zero_le (show 0 ≤ n by omega)
  obtain ⟨-, hi⟩ := hn
  rw [Int.mul_comm]
  exact Binary64.value_ofInt (k := 63) (by decide) (by decide) (by omega) (by omega)

theorem steps_shared : ∃ m, InJson m ∧ 9223372036854775808 ≤ m ∧ m ≠ n ∧ steps m = steps n := by
  obtain ⟨-, hi⟩ := hn
  by_cases hnext : n + 1 < 18446744073709551616 ∧ steps (n + 1) = steps n
  · exact ⟨n + 1, ⟨by omega, hnext.1⟩, by omega, by omega, hnext.2⟩
  · refine ⟨n - 1, ⟨by omega, by omega⟩, ?_, by omega, ?_⟩ <;>
    · simp only [steps, nearestEven] at hnext ⊢
      split_ifs at * <;> omega

end Large

theorem ofJson_int_inj {m n : Int} (hm : InJson m) (hn : InJson n) :
    ofJson (.int m) = ofJson (.int n) ↔
      m = n ∨ (9223372036854775808 ≤ m ∧ 9223372036854775808 ≤ n) ∧ steps m = steps n := by
  by_cases hmlarge : 9223372036854775808 ≤ m <;> by_cases hnlarge : 9223372036854775808 ≤ n
  · have hmbits := bits_large hm hmlarge
    have hnbits := bits_large hn hnlarge
    rw [ofJson_large hm hmlarge, ofJson_large hn hnlarge, real.injEq]
    constructor
    · intro h
      rw [h] at hmbits
      exact .inr ⟨⟨hmlarge, hnlarge⟩, by omega⟩
    · rintro (rfl | ⟨-, h⟩)
      · rfl
      · rw [Binary64.mk.injEq, ← UInt64.toNat_inj]
        omega
  · have hnsmall := (isInt64_iff hn).2 (by omega)
    rw [ofJson_large hm hmlarge, ofJson, hnsmall]
    simp only [if_pos, reduceCtorEq, false_iff]
    omega
  · have hmsmall := (isInt64_iff hm).2 (by omega)
    rw [ofJson_large hn hnlarge, ofJson, hmsmall]
    simp only [if_pos, reduceCtorEq, false_iff]
    omega
  · have hmsmall := (isInt64_iff hm).2 (by omega)
    have hnsmall := (isInt64_iff hn).2 (by omega)
    rw [ofJson, ofJson, hmsmall, hnsmall]
    simp only [if_pos, integer.injEq]
    omega

/-- An integer goes in without loss exactly if it has 63 bits and a sign. A larger one goes in as a double,
at most 1024 away from it, and so do others. -/
theorem integer_binding {n : Int} (hn : InJson n) :
    (ofJson (.int n) = inFull n ↔ isInt64 n = true) ∧
      ((∀ m, InJson m → ofJson (.int m) = ofJson (.int n) → m = n) ↔ isInt64 n = true) ∧
      (isInt64 n = false → ∃ x, ofJson (.int n) = .real x ∧ x.isFinite = true ∧
        x.isIntegral = true ∧ x.truncate = 2048 * steps n ∧
        -1024 ≤ x.truncate - n ∧ x.truncate - n ≤ 1024) := by
  by_cases hfits : isInt64 n = true
  · refine ⟨?_, ?_, ?_⟩
    · rw [ofJson, inFull, hfits]
      simp
    · refine ⟨fun _ => hfits, fun _ m hm h => ?_⟩
      have hsmall := (isInt64_iff hn).1 hfits
      obtain heq | ⟨⟨-, hlarge⟩, -⟩ := (ofJson_int_inj hm hn).1 h
      · exact heq
      · omega
    · simp [hfits]
  · have hlarge : 9223372036854775808 ≤ n := by
      have := mt (isInt64_iff hn).2 hfits
      omega
    obtain ⟨hfinite, hintegral, hvalue⟩ := value_large hn hlarge
    refine ⟨?_, ?_, fun _ => ⟨.ofInt n, ofJson_large hn hlarge, hfinite, hintegral, hvalue, ?_⟩⟩
    · rw [ofJson_large hn hlarge, inFull, if_neg hfits, ofString]
      simp [hfits]
    · refine ⟨fun h => ?_, fun h => absurd h hfits⟩
      obtain ⟨m, hm, hmlarge, hne, hsteps⟩ := steps_shared hn hlarge
      exact absurd (h m hm ((ofJson_int_inj hm hn).2 (.inr ⟨⟨hmlarge, hlarge⟩, hsteps⟩))) hne
    · rw [hvalue]
      exact steps_near hlarge

theorem integer_binding_both_sides :
    ofJson (.int 9223372036854775807) = inFull 9223372036854775807 ∧
      ofJson (.int 9223372036854775808) ≠ inFull 9223372036854775808 :=
  ⟨(integer_binding (by decide)).1.2 (by decide),
    fun h => absurd ((integer_binding (by decide)).1.1 h) (by decide)⟩

/-- The least two integers beyond 63 bits go in as one double, not as their digits. -/
theorem large_integers_merge :
    (InJson 9223372036854775808 ∧ InJson 9223372036854775809) ∧
      ofJson (.int 9223372036854775808) = ofJson (.int 9223372036854775809) ∧
      ofJson (.int 9223372036854775808) = .real ⟨0x43E0000000000000⟩ ∧
      ofJson (.int 9223372036854775808) ≠ .ofString "9223372036854775808" := by
  decide +kernel

end EndpointGate.Sql.Value
