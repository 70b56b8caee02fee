import EndpointGate.Number.Binary64
import Mathlib.Algebra.Order.Ring.Nat
import Mathlib.Data.Int.Cast.Basic
import Mathlib.Tactic.SplitIfs

/-! Doubles of large integers. An integer of more than fifty-three bits is kept to its first fifty-three,
rounded to the nearest, and all of them are carried when the rounding fills them up. -/

namespace EndpointGate

open Float.Model UnpackedFloat

def nearestEven (n d : Nat) : Nat :=
  if 2 * (n % d) < d then n / d
  else if 2 * (n % d) = d then n / d + n / d % 2
  else n / d + 1

section Nearest

variable {n d : Nat}

theorem nearestEven_cases (n d : Nat) :
    nearestEven n d = n / d ∧ 2 * (n % d) ≤ d ∨ nearestEven n d = n / d + 1 ∧ d ≤ 2 * (n % d) := by
  rw [nearestEven]
  split_ifs <;> omega

theorem nearestEven_mul_left {c : Nat} (hc : 0 < c) (n d : Nat) :
    nearestEven (c * n) (c * d) = nearestEven n d := by
  have hlt : 2 * (c * (n % d)) < c * d ↔ 2 * (n % d) < d := by
    rw [Nat.mul_left_comm, Nat.mul_lt_mul_left hc]
  have heq : 2 * (c * (n % d)) = c * d ↔ 2 * (n % d) = d := by
    rw [Nat.mul_left_comm, Nat.mul_right_inj hc.ne']
  simp only [nearestEven, Nat.mul_mod_mul_left, Nat.mul_div_mul_left _ _ hc, hlt, heq]

theorem nearestEven_near (n : Nat) (hd : 0 < d) :
    2 * n ≤ 2 * (nearestEven n d * d) + d ∧ 2 * (nearestEven n d * d) ≤ 2 * n + d := by
  have hn := Nat.div_add_mod' n d
  have hr := Nat.mod_lt n hd
  obtain ⟨h, hle⟩ | ⟨h, hle⟩ := nearestEven_cases n d
  · rw [h]
    omega
  · rw [h, Nat.add_mul]
    omega

theorem le_nearestEven {a : Nat} (hd : 0 < d) (h : a * d ≤ n) : a ≤ nearestEven n d := by
  have hq : a ≤ n / d := (Nat.le_div_iff_mul_le hd).2 h
  obtain ⟨he, -⟩ | ⟨he, -⟩ := nearestEven_cases n d <;> omega

theorem nearestEven_le {b : Nat} (hd : 0 < d) (h : n < b * d) : nearestEven n d ≤ b := by
  have hq : n / d < b := (Nat.div_lt_iff_lt_mul hd).2 h
  obtain ⟨he, -⟩ | ⟨he, -⟩ := nearestEven_cases n d <;> omega

theorem nearestEven_mem {j : Nat} (lo : 2 ^ (j + 52) ≤ n) (hi : n < 2 ^ (j + 52 + 1)) :
    2 ^ 52 ≤ nearestEven n (2 ^ j) ∧ nearestEven n (2 ^ j) ≤ 2 ^ 53 := by
  constructor
  · apply le_nearestEven (Nat.two_pow_pos j)
    rw [← Nat.pow_add, Nat.add_comm]
    exact lo
  · apply nearestEven_le (Nat.two_pow_pos j)
    rw [← Nat.pow_add, Nat.add_comm]
    exact hi

end Nearest

namespace Binary64

theorem mod_two_pow_succ (n k : Nat) : n % 2 ^ (k + 1) = n % 2 ^ k + 2 ^ k * (n / 2 ^ k % 2) := by
  rw [Nat.pow_succ, Nat.mod_mul]

/-- A mantissa moved by `k + 1` places remembers the last bit that went out and whether an earlier one
was set. -/
theorem shiftRight_eq (n k : Nat) :
    (⟨n, false, false⟩ : ExtendedMantissa) >>> (k + 1) =
      ⟨n / 2 ^ (k + 1), n / 2 ^ k % 2 != 0, n % 2 ^ k != 0⟩ := by
  change Nat.repeat ExtendedMantissa.shiftRightOne (k + 1) _ = _
  induction k with
  | zero => simp [Nat.repeat, ExtendedMantissa.shiftRightOne, Nat.mod_one]
  | succ k ih =>
    have hdiv : n / 2 ^ (k + 1) / 2 = n / 2 ^ (k + 2) := by
      rw [Nat.div_div_eq_div_mul, ← Nat.pow_succ]
    have hlost : (n / 2 ^ k % 2 != 0 || n % 2 ^ k != 0) = (n % 2 ^ (k + 1) != 0) := by
      rw [Bool.eq_iff_iff, mod_two_pow_succ]
      simp only [Bool.or_eq_true, bne_iff_ne, ne_eq, Nat.add_eq_zero_iff, Nat.mul_eq_zero,
        Nat.pow_eq_zero]
      omega
    rw [Nat.repeat, ih]
    simp only [ExtendedMantissa.shiftRightOne, hdiv, hlost]

theorem roundedMantissa_shiftRight (n k : Nat) :
    ((⟨n, false, false⟩ : ExtendedMantissa) >>> (k + 1)).roundedMantissa =
      nearestEven n (2 ^ (k + 1)) := by
  have hr : n % 2 ^ k < 2 ^ k := Nat.mod_lt n (Nat.two_pow_pos k)
  rw [shiftRight_eq, nearestEven, mod_two_pow_succ, Nat.pow_succ]
  generalize n / (2 ^ k * 2) = q
  rcases Nat.mod_two_eq_zero_or_one (n / 2 ^ k) with hb | hb <;>
    rcases Nat.eq_zero_or_pos (n % 2 ^ k) with h0 | h0
  · rw [hb, h0, if_pos (by omega)]
    rfl
  · rw [hb, bne_iff_ne.2 h0.ne', if_pos (by omega)]
    rfl
  · rw [hb, h0, if_neg (by omega), if_pos (by omega)]
    rfl
  · rw [hb, bne_iff_ne.2 h0.ne', if_neg (by omega), if_neg (by omega)]
    rfl

theorem log2_mul_two_pow {n k : Nat} (lo : 2 ^ k ≤ n) (hi : n < 2 ^ (k + 1)) (j : Nat) :
    (n * 2 ^ j).log2 = k + j := by
  have hk := Nat.two_pow_pos k
  rw [Nat.log2_eq_iff (Nat.mul_ne_zero (by omega) (Nat.two_pow_pos j).ne')]
  constructor
  · rw [Nat.pow_add]
    exact Nat.mul_le_mul_right _ lo
  · rw [Nat.add_right_comm, Nat.pow_add]
    exact Nat.mul_lt_mul_of_pos_right hi (Nat.two_pow_pos j)

theorem shiftToTargetExponent_eq {m t : Nat} (e : Int) (hlog : m.log2 = t) (ht : -1022 ≤ t + e) :
    shiftToTargetExponent .binary64 m e .exact =
      ((⟨m, false, false⟩ : ExtendedMantissa) >>> (t - 52), max e (t + e - 52)) := by
  have htarget : Format.binary64.targetExponent (t + 1 + e) = t + e - 52 := by
    have hbits : Format.binary64.mantissaBits = 53 := rfl
    have hleast : Format.binary64.minExponent = -1074 := rfl
    simp only [Format.targetExponent, hbits, hleast]
    omega
  simp only [shiftToTargetExponent, shiftToExponent, totalExponent, hlog, htarget,
    ExtendedMantissa.ofMantissaAndAccuracy, Prod.mk.injEq]
  constructor
  · congr 1
    omega
  · omega

theorem roundWithAccuracy_of_shifts {spec : Format} {sign : Sign} {m : Nat} {e e₁ e₂ : Int}
    {accuracy : Accuracy} {em₁ em₂ : ExtendedMantissa}
    (first : shiftToTargetExponent spec m e accuracy = (em₁, e₁))
    (second : shiftToTargetExponent spec em₁.roundedMantissa e₁ .exact = (em₂, e₂))
    (pos : 0 < em₂.mantissa) :
    roundWithAccuracy spec sign m e accuracy = .finite sign em₂.mantissa e₂ pos := by
  rw [roundWithAccuracy, first]
  dsimp only
  rw [second]
  exact dif_neg pos.ne'

theorem toNat_pack_normal {m e : Nat} (hm : 0 < m) (lo : 2 ^ 52 ≤ m) (hi : m < 2 ^ 53)
    (he : e ≤ 971) :
    (UnpackedFloat.pack .binary64 (.finite .positive m e hm)).toNat = (e + 1074) * 2 ^ 52 + m := by
  have hlog : m.log2 = 52 := (Nat.log2_eq_iff hm.ne').2 ⟨lo, hi⟩
  have hbias : Format.binary64.exponentBias = 1023 := rfl
  have hstored : ((e : Int) + 1023 + 52).toNat = e + 1075 := by omega
  have happend (b : BitVec 11) (c : BitVec 52) :
      (Sign.positive.toBitVec ++ b ++ c).toNat = b.toNat * 2 ^ 52 + c.toNat := by
    rw [BitVec.toNat_append, BitVec.toNat_append, ← Nat.shiftLeft_add_eq_or_of_lt c.isLt,
      Nat.shiftLeft_eq]
    simp [Sign.toBitVec]
  delta UnpackedFloat.pack
  dsimp only
  simp only [hlog, hbias, Nat.cast_ofNat, hstored]
  rw [if_neg (by omega), if_pos (by rfl), packComponents, happend, BitVec.toNat_ofNat,
    BitVec.toNat_ofNat]
  omega

section Large

variable {n k : Nat} (hk : 53 ≤ k) (hk' : k ≤ 1022) (lo : 2 ^ k ≤ n) (hi : n < 2 ^ (k + 1))

include hk hk' lo hi

/-- A mantissa that rounding fills up becomes `2 ^ 52` at the next exponent, which are the same bits. -/
theorem toNat_pack_round :
    (UnpackedFloat.pack .binary64
        (roundWithAccuracy .binary64 .positive (n * 2 ^ 53) (-53) .exact)).toNat =
      (k + 1022) * 2 ^ 52 + nearestEven n (2 ^ (k - 52)) := by
  obtain ⟨j, rfl⟩ : ∃ j, k = j + 52 := ⟨k - 52, by omega⟩
  rw [Nat.add_sub_cancel]
  have hfirst : shiftToTargetExponent .binary64 (n * 2 ^ 53) (-53) .exact =
      ((⟨n * 2 ^ 53, false, false⟩ : ExtendedMantissa) >>> (j + 52 + 1), (j : Int)) := by
    rw [shiftToTargetExponent_eq (-53) (log2_mul_two_pow lo hi 53) (by omega)]
    refine Prod.ext_iff.2 ⟨rfl, ?_⟩
    simp only
    omega
  have hrounded : ((⟨n * 2 ^ 53, false, false⟩ : ExtendedMantissa) >>> (j + 52 + 1)).roundedMantissa =
      nearestEven n (2 ^ j) := by
    rw [roundedMantissa_shiftRight, Nat.add_assoc, Nat.pow_add, Nat.mul_comm n, Nat.mul_comm (2 ^ j),
      nearestEven_mul_left (Nat.two_pow_pos 53)]
  obtain ⟨hlow, hhigh⟩ := nearestEven_mem lo hi
  generalize nearestEven n (2 ^ j) = m at *
  rcases Nat.lt_or_eq_of_le hhigh with hlt | rfl
  · have hsecond : shiftToTargetExponent .binary64 m j .exact = (⟨m, false, false⟩, (j : Int)) := by
      rw [shiftToTargetExponent_eq j ((Nat.log2_eq_iff (by omega)).2 ⟨hlow, hlt⟩) (by omega)]
      refine Prod.ext_iff.2 ⟨rfl, ?_⟩
      simp only
      omega
    have hpos : 0 < m := by omega
    rw [roundWithAccuracy_of_shifts hfirst (by rw [hrounded, hsecond]) hpos,
      toNat_pack_normal hpos hlow hlt (by omega)]
  · have hsecond : shiftToTargetExponent .binary64 (2 ^ 53) j .exact =
        (⟨2 ^ 52, false, false⟩, ((j + 1 : Nat) : Int)) := by
      rw [shiftToTargetExponent_eq j (show (2 ^ 53).log2 = 53 by decide) (by omega)]
      refine Prod.ext_iff.2 ⟨rfl, ?_⟩
      simp only
      omega
    have hpos : 0 < 2 ^ 52 := by decide
    rw [roundWithAccuracy_of_shifts hfirst (by rw [hrounded, hsecond]) hpos,
      toNat_pack_normal hpos le_rfl (by decide) (by omega)]
    omega

theorem bits_ofInt :
    (ofInt n).bits.toNat = (k + 1022) * 2 ^ 52 + nearestEven n (2 ^ (k - 52)) := by
  have hn : ¬n < 2 ^ 53 := by
    have := Nat.pow_le_pow_right (show 0 < 2 by decide) hk
    omega
  have hpos : 0 < n := by omega
  have hmodel : UnpackedFloat.ofScientific .binary64 n 0 =
      roundWithAccuracy .binary64 .positive (n * 2 ^ 53) (-53) .exact := by
    rw [UnpackedFloat.ofScientific, dif_neg hpos.ne', if_neg (by decide),
      if_neg (by rw [show Format.binary64.exponentBits = 11 from rfl]; omega), if_pos (by decide)]
    delta UnpackedFloat.mul
    dsimp only
    rw [Int.toNat_zero, Nat.shiftLeft_eq, Nat.pow_zero, Nat.mul_one]
    rfl
  rw [← toNat_pack_round hk hk' lo hi, ← hmodel]
  change (Float.ofScientific n false 0).toBits.toNat = _
  rw [Float.ofScientific, dif_neg (by omega)]
  rfl

end Large

theorem value_of_bits {x : Binary64} {e m : Nat} (he : e ≤ 971)
    (h : x.bits.toNat = (e + 1074) * 2 ^ 52 + m) (lo : 2 ^ 52 ≤ m) (hi : m < 2 ^ 53) :
    x.isFinite = true ∧ x.isIntegral = true ∧ x.truncate = m * 2 ^ e := by
  have hexponent : x.biasedExponent = e + 1075 := by
    rw [biasedExponent, fractions, h]
    omega
  have hfraction : x.fraction = m - 2 ^ 52 := by
    rw [fraction, fractions, h]
    omega
  have hnegative : x.negative = false := by
    rw [negative, fractions, h, decide_eq_false_iff_not]
    omega
  have hscale : x.scale = Int.ofNat e := by
    rw [scale, hexponent, if_neg (by omega), Int.ofNat_eq_natCast]
    omega
  have hsignificand : x.significand = m := by
    rw [significand, hexponent, if_neg (by omega), hfraction, fractions]
    omega
  have hfinite : x.isFinite = true := by
    rw [isFinite, hexponent, bne_iff_ne]
    omega
  refine ⟨hfinite, ?_, ?_⟩
  · rw [isIntegral, hfinite, hscale]
    rfl
  · rw [truncate, hscale, hnegative, hsignificand]
    simp

theorem value_ofInt {n k : Nat} (hk : 53 ≤ k) (hk' : k ≤ 1022) (lo : 2 ^ k ≤ n)
    (hi : n < 2 ^ (k + 1)) :
    (ofInt n).isFinite = true ∧ (ofInt n).isIntegral = true ∧
      (ofInt n).truncate = nearestEven n (2 ^ (k - 52)) * 2 ^ (k - 52) := by
  have hbits := bits_ofInt hk hk' lo hi
  obtain ⟨j, rfl⟩ : ∃ j, k = j + 52 := ⟨k - 52, by omega⟩
  rw [Nat.add_sub_cancel] at hbits ⊢
  obtain ⟨hlow, hhigh⟩ := nearestEven_mem lo hi
  rcases Nat.lt_or_eq_of_le hhigh with hlt | heq
  · exact value_of_bits (by omega) hbits hlow hlt
  · have hcarried : (ofInt n).bits.toNat = (j + 1 + 1074) * 2 ^ 52 + 2 ^ 52 := by
      rw [hbits, heq]
      omega
    obtain ⟨hfinite, hintegral, hvalue⟩ := value_of_bits (by omega) hcarried le_rfl (by decide)
    refine ⟨hfinite, hintegral, ?_⟩
    rw [hvalue, heq, Int.pow_succ]
    push_cast
    omega

end Binary64

end EndpointGate
