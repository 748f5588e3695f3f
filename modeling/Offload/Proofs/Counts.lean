import Offload.Decimal.Natural
import Offload.Proofs.Rounding

/-!
# Counts as numbers

Whoever divides by a count divides by the number nearest to it. That number is not zero unless
the count is, however many digits are rounded away: rounding keeps the first digit, or carries
over into one more.

* `Rounding.round_natural` — a count keeps as many digits as the format has.
* `Single.ofCount_pos` — so it does not become zero.
* `Single.zero_div` — what follows for shares of nothing.
-/

namespace Offload

namespace Rounding

open Float.Model (Format UnpackedFloat)
open Float.Model.UnpackedFloat

/-- What is left of `j` digits too many when the last `j` are cut off. -/
theorem digits_of_log2 {m j : Nat} (h : m.log2 = 23 + j) :
    2 ^ 23 ≤ m / 2 ^ j ∧ m / 2 ^ j < 2 ^ 24 := by
  have hm : m ≠ 0 := by
    rintro rfl
    rw [Nat.log2_zero] at h
    omega
  obtain ⟨hle, hlt⟩ := (Nat.log2_eq_iff hm).mp h
  rw [Nat.le_div_iff_mul_le (Nat.two_pow_pos j), Nat.div_lt_iff_lt_mul (Nat.two_pow_pos j),
    ← Nat.pow_add, ← Nat.pow_add]
  exact ⟨hle, by rwa [show 24 + j = 23 + j + 1 by omega]⟩

theorem mantissa_shiftRight (em : ExtendedMantissa) (n : Nat) :
    (em >>> n).mantissa = em.mantissa / 2 ^ n := by
  show (n.repeat ExtendedMantissa.shiftRightOne em).mantissa = _
  induction n with
  | zero => simp [Nat.repeat]
  | succ n ih =>
    show (n.repeat ExtendedMantissa.shiftRightOne em).mantissa / 2 = _
    rw [ih, Nat.div_div_eq_div_mul, Nat.pow_succ]

/-- Rounding leaves the digits alone or adds one to the last of them. -/
theorem roundedMantissa_cases (em : ExtendedMantissa) :
    em.roundedMantissa = em.mantissa ∨ em.roundedMantissa = em.mantissa + 1 := by
  rcases em with ⟨m, _ | _, _ | _⟩
  · exact .inl rfl
  · exact .inl rfl
  · show m + m % 2 = m ∨ m + m % 2 = m + 1
    omega
  · exact .inr rfl

/-- Of `j` digits more than the format has, the last `j` are shifted out. -/
theorem shiftToTargetExponent_of_log2 {m j : Nat} {e : Int} (h : m.log2 = 23 + j)
    (he : -149 ≤ e) :
    ∃ em, shiftToTargetExponent .binary32 m e .exact = (em, e + j) ∧ em.mantissa = m / 2 ^ j := by
  have hplace : (Format.binary32.targetExponent (Float.Model.totalExponent m e) - e).toNat = j := by
    show (max ((m.log2 : Int) + 1 + e - 24) (-149) - e).toNat = j
    omega
  refine ⟨ExtendedMantissa.mk m false false >>> j, ?_, mantissa_shiftRight _ _⟩
  simp only [shiftToTargetExponent, shiftToExponent, hplace]
  rfl

/-- What has no fewer digits than the format is rounded to just as many. -/
theorem roundWithAccuracy_of_log2 {m j : Nat} {e : Int} (s : Sign) (h : m.log2 = 23 + j)
    (he : -149 ≤ e) :
    ∃ M E hM, roundWithAccuracy .binary32 s m e .exact = .finite s M E hM ∧
      M.log2 = 23 ∧ e ≤ E := by
  obtain ⟨em, hshift, hmantissa⟩ := shiftToTargetExponent_of_log2 h he
  -- rounding may carry over into one more digit, which is shifted out once more
  obtain ⟨i, hi⟩ : ∃ i, em.roundedMantissa.log2 = 23 + i := by
    have hdigits := digits_of_log2 h
    have hround := roundedMantissa_cases em
    rw [hmantissa] at hround
    rcases Nat.lt_or_ge em.roundedMantissa (2 ^ 24) with hlt | hge
    · exact ⟨0, (Nat.log2_eq_iff (by omega)).mpr ⟨by omega, hlt⟩⟩
    · exact ⟨1, (Nat.log2_eq_iff (by omega)).mpr ⟨hge, by omega⟩⟩
  obtain ⟨em', hshift', hmantissa'⟩ :=
    shiftToTargetExponent_of_log2 hi (e := e + j) (by omega)
  have hdigits := digits_of_log2 hi
  rw [← hmantissa'] at hdigits
  refine ⟨em'.mantissa, e + j + i, by omega, ?_, (Nat.log2_eq_iff (by omega)).mpr hdigits, by omega⟩
  simp only [roundWithAccuracy, hshift, hshift']
  rw [dif_neg (by omega)]

/-- A count other than zero is rounded to as many digits as the format has. -/
theorem round_natural {n : Nat} (h : 0 < n) :
    ∃ M E hM, UnpackedFloat.round .binary32 .positive n 0 = .finite .positive M E hM ∧
      M.log2 = 23 ∧ -23 ≤ E := by
  have hlog (k : Nat) : (n <<< k).log2 = n.log2 + k := by
    rw [Nat.shiftLeft_eq, Nat.log2_eq_iff (by positivity), Nat.pow_add, Nat.pow_succ, Nat.pow_add]
    obtain ⟨hle, hlt⟩ := (Nat.log2_eq_iff (k := n.log2) (by omega)).mp rfl
    refine ⟨Nat.mul_le_mul_right _ hle, ?_⟩
    rw [Nat.mul_right_comm, ← Nat.pow_succ]
    exact Nat.mul_lt_mul_of_pos_right hlt (Nat.two_pow_pos k)
  have hplace : Format.binary32.targetExponent (Float.Model.totalExponent n 0) =
      (n.log2 : Int) - 23 := by
    show max ((n.log2 : Int) + 1 + 0 - 24) (-149) = _
    omega
  simp only [UnpackedFloat.round, decreaseExponent, hplace]
  obtain ⟨M, E, hM, hround, hM', hE⟩ := roundWithAccuracy_of_log2 .positive
    (m := n <<< (0 - ((n.log2 : Int) - 23)).toNat) (j := n.log2 - 23)
    (e := 0 - ((0 - ((n.log2 : Int) - 23)).toNat : Int)) (by rw [hlog]; omega) (by omega)
  exact ⟨M, E, hM, hround, hM', by omega⟩

/-- What has just as many digits as the format is packed into a pattern that is not zero. -/
theorem pack_of_log2 {M : Nat} {E : Int} (hM : 0 < M) (hlog : M.log2 = 23) (hE : -23 ≤ E) :
    0 < (UnpackedFloat.pack .binary32 (.finite .positive M E hM)).toNat := by
  have hdigits : M.log2 + 1 = Format.binary32.mantissaBits := by
    rw [hlog]
    rfl
  simp only [UnpackedFloat.pack]
  rw [if_pos hdigits]
  split
  case isTrue => decide
  case isFalse hsmall =>
    have hsmall' : ¬ 2 ^ 8 ≤ (E + 127 + 23).toNat + 1 := hsmall
    rw [toNat_packComponents, BitVec.toNat_ofNat]
    show 0 < _ + ((E + 127 + 23).toNat % 2 ^ 8 * 2 ^ 23 + _)
    omega

end Rounding

namespace Single

open Float.Model (UnpackedFloat)
open Rounding

/-- A size other than zero is not rounded to zero. -/
theorem ofCount_pos {n : Nat} (hpos : 0 < n) (hlt : n < Decimal.sizeBound) :
    0 < (ofCount n).bits.toNat := by
  have hn : n.toUInt64.toNat = n := by
    rw [Nat.toUInt64, UInt64.toNat_ofNat']
    exact Nat.mod_eq_of_lt hlt
  obtain ⟨M, E, hM, hround, hlog, hE⟩ := round_natural hpos
  have hnumber : ofCount n = ofNumber (.finite .positive M E hM) := by
    rw [← hround]
    show ofNumber (UnpackedFloat.normalize .binary32 (n.toUInt64.toNat : Int) 0 .positive) = _
    rw [hn, UnpackedFloat.normalize, Int.compare_eq_gt.mpr (by omega), Int.toNat_natCast]
  rw [hnumber, bits_ofNumber (.finite M E hM)]
  exact pack_of_log2 hM hlog hE

/-- A part of nothing is nothing. -/
theorem zero_div {b : Single} (hb : b.Unsigned) (hpos : 0 < b.bits.toNat) : zero / b = zero := by
  rw [unsigned_iff] at hb
  rcases Nat.lt_or_eq_of_le hb with hlt | hinf
  · obtain ⟨h, hfinite⟩ : ∃ h, b.number =
        .finite .positive (coefficient b.bits.toNat) (exponent b.bits.toNat) h :=
      unpack_of_lt hpos hlt
    rw [div_eq_ofNumber rfl (unsigned_iff.mpr hb).isNaN, hfinite]
    show ofNumber (.zero .positive) = zero
    rfl
  · obtain rfl : b = infinity := congrArg Single.mk (UInt32.toNat_inj.mp hinf)
    rfl

end Single

end Offload
