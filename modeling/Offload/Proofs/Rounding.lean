import Mathlib
import Offload.Binary.Single

/-!
# What arithmetic keeps

A computation with numbers unpacks its operands, computes with them exactly, rounds and packs
the result. What a result is worth does not matter here, only of which kind it is: a sum of
numbers that carry no sign carries none, a difference of finite numbers is a number, and
neighbours on the number line differ by an ordinary positive number.

* `Rounding.pack_unpack` — packing undoes unpacking, on everything that stands for a number.
* `Rounding.HasSign` — the numbers that have a sign, and what keeps it.
* `Rounding.sub_succ` — neighbours differ by one unit of their place.
* `Single.Unsigned` — the numbers that carry no sign, and what arithmetic makes of them.
-/

namespace Offload

namespace Rounding

open Float.Model (Format UnpackedFloat)
open Float.Model.UnpackedFloat

/-! ### The fields of a pattern -/

@[simp] theorem toNat_positive : (Sign.toBitVec .positive).toNat = 0 := rfl

@[simp] theorem toNat_negative : (Sign.toBitVec .negative).toNat = 1 := rfl

/-- The fields of a pattern as digits of one natural number. -/
theorem toNat_packComponents (s : Sign) (e : BitVec 8) (m : BitVec 23) :
    (packComponents .binary32 s e m).toNat =
      s.toBitVec.toNat * 2 ^ 31 + (e.toNat * 2 ^ 23 + m.toNat) := by
  have hse : (s.toBitVec ++ e).toNat = s.toBitVec.toNat * 2 ^ 8 + e.toNat := by
    rw [BitVec.toNat_append, ← Nat.shiftLeft_add_eq_or_of_lt e.isLt, Nat.shiftLeft_eq]
  show (s.toBitVec ++ e ++ m).toNat = _
  rw [BitVec.toNat_append, ← Nat.shiftLeft_add_eq_or_of_lt m.isLt, Nat.shiftLeft_eq, hse]
  omega

/-- Every pattern is made of fields. -/
theorem exists_packComponents (b : BitVec 32) :
    ∃ (s : Sign) (e : BitVec 8) (m : BitVec 23), b = packComponents .binary32 s e m := by
  have hsign : ∀ v : BitVec 1, (Sign.ofBitVec v).toBitVec = v := by decide
  have hb := b.isLt
  refine ⟨.ofBitVec (.ofNat 1 (b.toNat / 2 ^ 31)), .ofNat 8 (b.toNat / 2 ^ 23),
    .ofNat 23 b.toNat, BitVec.eq_of_toNat_eq ?_⟩
  rw [toNat_packComponents, hsign]
  simp only [BitVec.toNat_ofNat]
  omega

theorem unpackSign_packComponents (s : Sign) (e : BitVec 8) (m : BitVec 23) :
    unpackSign (packComponents .binary32 s e m) = s.toBitVec := by
  have he := e.isLt
  have hm := m.isLt
  apply BitVec.eq_of_toNat_eq
  simp only [unpackSign, BitVec.extractLsb, BitVec.toNat_cast, BitVec.extractLsb'_toNat,
    Nat.shiftRight_eq_div_pow]
  rw [toNat_packComponents]
  cases s <;> simp <;> omega

theorem toNat_implicit (m : BitVec 23) : (1#1 ++ m).toNat = 2 ^ 23 + m.toNat := by
  rw [BitVec.toNat_append, ← Nat.shiftLeft_add_eq_or_of_lt m.isLt]
  rfl

/-- What the fields stand for. -/
theorem unpack_packComponents (s : Sign) (e : BitVec 8) (m : BitVec 23) :
    UnpackedFloat.unpack .binary32 (packComponents .binary32 s e m) =
      if e = -1#8 then if m = 0#23 then .infinity s else .notANumber
      else if e = 0#8 then
        if h : m = 0#23 then .zero s
        else .finite s m.toNat (-149) (by simpa [BitVec.toNat_pos, BitVec.pos_iff_ne_zero])
      else .finite s (2 ^ 23 + m.toNat) (e.toNat - 150) (by omega) := by
  have hsign : Sign.ofBitVec s.toBitVec = s := by cases s <;> rfl
  simp only [UnpackedFloat.unpack, unpackExponent_packComponents, unpackMantissa_packComponents,
    unpackSign_packComponents, hsign]
  split
  · rfl
  · split
    · rename_i he
      subst he
      rfl
    · simp only [UnpackedFloat.finite.injEq]
      exact ⟨trivial, toNat_implicit m, rfl⟩

/-- Whether fields are those of a number shows in the digits. -/
theorem number_fields_iff (e : BitVec 8) (m : BitVec 23) :
    (e = -1#8 → m = 0#23) ↔ e.toNat * 2 ^ 23 + m.toNat ≤ 0x7F800000 := by
  have he := e.isLt
  have hm := m.isLt
  have hones : e = -1#8 ↔ e.toNat = 255 := BitVec.toNat_inj.symm
  have hzero : m = 0#23 ↔ m.toNat = 0 := BitVec.toNat_inj.symm
  rw [hones, hzero]
  omega

/-! ### Packing what was unpacked -/

theorem pack_subnormal (s : Sign) (m : BitVec 23) (h : 0 < m.toNat) :
    UnpackedFloat.pack .binary32 (.finite s m.toNat (-149) h) =
      packComponents .binary32 s 0#8 m := by
  have hlog : m.toNat.log2 < 23 := (Nat.log2_lt (by omega)).mpr m.isLt
  have hdigits : m.toNat.log2 + 1 ≠ Format.binary32.mantissaBits := by
    show _ ≠ 24
    omega
  simp only [UnpackedFloat.pack]
  rw [if_neg (by decide), if_neg hdigits, BitVec.ofNat_toNat, BitVec.setWidth_eq]

theorem pack_normal (s : Sign) (e : BitVec 8) (m : BitVec 23) (hones : e ≠ -1#8)
    (h : 0 < 2 ^ 23 + m.toNat) :
    UnpackedFloat.pack .binary32 (.finite s (2 ^ 23 + m.toNat) (e.toNat - 150) h) =
      packComponents .binary32 s e m := by
  have hm := m.isLt
  have he := e.isLt
  have hones' : e.toNat ≠ 255 := fun he' => hones (BitVec.eq_of_toNat_eq he')
  have hlog : (2 ^ 23 + m.toNat).log2 = 23 := by
    rw [Nat.log2_eq_iff (by omega)]
    omega
  have hdigits : (2 ^ 23 + m.toNat).log2 + 1 = Format.binary32.mantissaBits := by
    rw [hlog]
    rfl
  have hexp :
      ((e.toNat : Int) - 150 + Format.binary32.exponentBias + (23 : Nat)).toNat = e.toNat := by
    show ((e.toNat : Int) - 150 + 127 + (23 : Nat)).toNat = e.toNat
    omega
  simp only [UnpackedFloat.pack, hexp]
  rw [if_neg (by omega), if_pos hdigits]
  congr 1
  · simp
  · apply BitVec.eq_of_toNat_eq
    rw [BitVec.toNat_ofNat]
    omega

/-- Packing undoes unpacking, on everything that stands for a number. -/
theorem pack_unpack {b : BitVec 32} (h : b.toNat % 2 ^ 31 ≤ 0x7F800000) :
    UnpackedFloat.pack .binary32 (UnpackedFloat.unpack .binary32 b) = b := by
  obtain ⟨s, e, m, rfl⟩ := exists_packComponents b
  have hnumber : e = -1#8 → m = 0#23 := by
    have he := e.isLt
    have hm := m.isLt
    rw [toNat_packComponents] at h
    rw [number_fields_iff]
    omega
  rw [unpack_packComponents]
  by_cases hones : e = -1#8
  · rw [if_pos hones, if_pos (hnumber hones), hones, hnumber hones]
    rfl
  · rw [if_neg hones]
    by_cases hzero : e = 0#8
    · rw [if_pos hzero, hzero]
      by_cases hm : m = 0#23
      · rw [dif_pos hm, hm]
        rfl
      · rw [dif_neg hm]
        exact pack_subnormal s m _
    · rw [if_neg hzero]
      exact pack_normal s e m hones _

/-! ### Signs -/

/-- A number, an infinite one included, that has the sign `s`. -/
inductive HasSign (s : Sign) : UnpackedFloat → Prop
  | infinity : HasSign s (.infinity s)
  | zero : HasSign s (.zero s)
  | finite (m : Nat) (e : Int) (h : 0 < m) : HasSign s (.finite s m e h)

section
variable {spec : Format} {s : Sign} {f g : UnpackedFloat}

theorem HasSign.isNaN (h : HasSign s f) : f.isNaN = false := by
  cases h <;> rfl

theorem hasSign_unpack {e : BitVec 8} {m : BitVec 23} (h : e = -1#8 → m = 0#23) :
    HasSign s (UnpackedFloat.unpack .binary32 (packComponents .binary32 s e m)) := by
  rw [unpack_packComponents]
  split
  · rename_i hones
    rw [if_pos (h hones)]
    exact .infinity
  · split
    · split
      · exact .zero
      · exact .finite ..
    · exact .finite ..

/-- What has a sign is packed into the fields of a number of that sign; where it is too great
they are those of infinity. -/
theorem HasSign.pack (h : HasSign s f) :
    ∃ e m, UnpackedFloat.pack .binary32 f = packComponents .binary32 s e m ∧
      (e = -1#8 → m = 0#23) := by
  cases h with
  | infinity => exact ⟨-1#8, 0#23, rfl, fun _ => rfl⟩
  | zero => exact ⟨0#8, 0#23, rfl, fun _ => rfl⟩
  | finite m e hm =>
    simp only [UnpackedFloat.pack]
    split
    · exact ⟨-1#8, 0#23, rfl, fun _ => rfl⟩
    · rename_i hsmall
      split
      · refine ⟨_, _, rfl, fun hones => ?_⟩
        have hdigits := congrArg BitVec.toNat hones
        rw [BitVec.toNat_ofNat] at hdigits
        simp at hdigits hsmall
        omega
      · refine ⟨0#8, _, rfl, fun hones => ?_⟩
        cases hones

theorem hasSign_roundWithAccuracy (s : Sign) (m : Nat) (e : Int) (a : Accuracy) :
    HasSign s (roundWithAccuracy spec s m e a) := by
  simp only [roundWithAccuracy]
  split
  · exact .zero
  · exact .finite ..

theorem hasSign_normalize {m : Int} (hm : 0 ≤ m) (e : Int) :
    HasSign .positive (normalize spec m e .positive) := by
  unfold UnpackedFloat.normalize
  split
  · rename_i hlt
    rw [Int.compare_eq_lt] at hlt
    omega
  · exact .zero
  · exact hasSign_roundWithAccuracy ..

theorem exists_hasSign_normalize (m e : Int) :
    ∃ s, HasSign s (normalize spec m e .positive) := by
  unfold UnpackedFloat.normalize
  split
  · exact ⟨_, hasSign_roundWithAccuracy ..⟩
  · exact ⟨_, .zero⟩
  · exact ⟨_, hasSign_roundWithAccuracy ..⟩

theorem HasSign.add (hf : HasSign .positive f) (hg : HasSign .positive g) :
    HasSign .positive (UnpackedFloat.add spec f g) := by
  cases hf with
  | infinity => cases hg <;> exact .infinity
  | zero =>
    cases hg with
    | infinity => exact .infinity
    | zero => exact .zero
    | finite => exact .finite ..
  | finite m e h =>
    cases hg with
    | infinity => exact .infinity
    | zero => exact .finite ..
    | finite m' e' h' =>
      exact hasSign_normalize (Int.add_nonneg (Int.natCast_nonneg _) (Int.natCast_nonneg _)) _

/-- Only the difference of two infinities is no number. -/
theorem exists_hasSign_sub (hf : f.isFinite = true) (hg : g.isFinite = true) :
    ∃ s, HasSign s (UnpackedFloat.sub spec f g) := by
  cases f with
  | infinity | notANumber => cases hf
  | zero s =>
    cases g with
    | infinity | notANumber => cases hg
    | zero s' => cases s <;> cases s' <;> exact ⟨_, .zero⟩
    | finite => exact ⟨_, .finite ..⟩
  | finite s m e h =>
    cases g with
    | infinity | notANumber => cases hg
    | zero => exact ⟨_, .finite ..⟩
    | finite => exact exists_hasSign_normalize _ _

theorem HasSign.div_finite (hf : HasSign .positive f) {m : Nat} {e : Int} (h : 0 < m) :
    HasSign .positive (UnpackedFloat.div spec f (.finite .positive m e h)) := by
  cases hf with
  | infinity => exact .infinity
  | zero => exact .zero
  | finite => exact hasSign_roundWithAccuracy ..

theorem HasSign.div (hf : HasSign .positive f) (hg : HasSign .positive g) :
    UnpackedFloat.div spec f g = .notANumber ∨
      HasSign .positive (UnpackedFloat.div spec f g) := by
  cases hg with
  | finite => exact .inr (hf.div_finite _)
  | infinity =>
    cases hf with
    | infinity => exact .inl rfl
    | zero | finite => exact .inr .zero
  | zero =>
    cases hf with
    | zero => exact .inl rfl
    | infinity | finite => exact .inr .infinity

end

/-! ### Neighbours -/

/-- The digits of the number whose pattern is `b`. -/
def coefficient (b : Nat) : Nat :=
  if b < 2 ^ 23 then b else 2 ^ 23 + b % 2 ^ 23

/-- The place of the last of these digits. Below the least normal number it is the same for
all. -/
def exponent (b : Nat) : Int :=
  (max (b / 2 ^ 23) 1 : Nat) - 150

/-- A pattern between zero and infinity stands for its digits at their place. -/
theorem unpack_of_lt {b : BitVec 32} (hpos : 0 < b.toNat) (hlt : b.toNat < 0x7F800000) :
    ∃ h, UnpackedFloat.unpack .binary32 b =
      .finite .positive (coefficient b.toNat) (exponent b.toNat) h := by
  obtain ⟨s, e, m, rfl⟩ := exists_packComponents b
  have he := e.isLt
  have hm := m.isLt
  have hbits := toNat_packComponents s e m
  have hs : s = .positive := by
    cases s with
    | positive => rfl
    | negative =>
      rw [toNat_negative] at hbits
      omega
  subst hs
  have hb : (packComponents .binary32 .positive e m).toNat = e.toNat * 2 ^ 23 + m.toNat := by
    simpa using hbits
  rw [hb] at hpos hlt ⊢
  have hones : e ≠ -1#8 := by
    rintro rfl
    rw [show (-1#8).toNat = 255 from rfl] at hlt
    omega
  rw [unpack_packComponents, if_neg hones]
  by_cases hzero : e = 0#8
  · have hm' : m ≠ 0#23 := by
      rintro rfl
      simp [hzero] at hpos
    have he' : e.toNat = 0 := by rw [hzero]; rfl
    have hcoefficient : coefficient (e.toNat * 2 ^ 23 + m.toNat) = m.toNat := by
      rw [coefficient, if_pos (by omega)]
      omega
    have hexponent : exponent (e.toNat * 2 ^ 23 + m.toNat) = -149 := by
      rw [exponent]
      omega
    rw [if_pos hzero, dif_neg hm']
    simp only [hcoefficient, hexponent, exists_prop, and_true]
    omega
  · have he' : e.toNat ≠ 0 := fun h => hzero (BitVec.eq_of_toNat_eq h)
    have hcoefficient : coefficient (e.toNat * 2 ^ 23 + m.toNat) = 2 ^ 23 + m.toNat := by
      rw [coefficient, if_neg (by omega)]
      omega
    have hexponent : exponent (e.toNat * 2 ^ 23 + m.toNat) = e.toNat - 150 := by
      rw [exponent]
      omega
    rw [if_neg hzero]
    simp only [hcoefficient, hexponent, exists_prop, and_true]
    omega

theorem exponent_le_succ (b : Nat) : exponent b ≤ exponent (b + 1) := by
  simp only [exponent]
  omega

/-- Counting patterns up counts digits up, also where the digits move on to the next place. -/
theorem coefficient_succ (b : Nat) :
    coefficient (b + 1) * 2 ^ (exponent (b + 1) - exponent b).toNat = coefficient b + 1 := by
  by_cases hcarry : (b + 1) % 2 ^ 23 = 0 ∧ 2 ^ 23 ≤ b
  · have hplace : (exponent (b + 1) - exponent b).toNat = 1 := by
      simp only [exponent]
      omega
    rw [hplace, coefficient, coefficient, if_neg (by omega), if_neg (by omega)]
    omega
  · have hplace : (exponent (b + 1) - exponent b).toNat = 0 := by
      simp only [exponent]
      omega
    simp only [hplace, coefficient]
    split <;> split <;> omega

/-- Neighbours differ by one unit of the place of the smaller one. -/
theorem sub_succ {b b' : BitVec 32} (hpos : 0 < b.toNat) (hb' : b'.toNat = b.toNat + 1)
    (hlt : b'.toNat < 0x7F800000) :
    UnpackedFloat.sub .binary32 (UnpackedFloat.unpack .binary32 b')
        (UnpackedFloat.unpack .binary32 b) =
      normalize .binary32 1 (exponent b.toNat) .positive := by
  obtain ⟨h, hunpack⟩ := unpack_of_lt hpos (by omega)
  obtain ⟨h', hunpack'⟩ := unpack_of_lt (by omega) hlt
  have hmin : min (exponent b'.toNat) (exponent b.toNat) = exponent b.toNat := by
    have hle := exponent_le_succ b.toNat
    rw [hb']
    omega
  have hone : Sign.positive.apply
        (coefficient b'.toNat <<< (exponent b'.toNat - exponent b.toNat).toNat) -
      Sign.positive.apply
        (coefficient b.toNat <<< (exponent b.toNat - exponent b.toNat).toNat) = 1 := by
    rw [hb', Nat.shiftLeft_eq, coefficient_succ, Int.sub_self]
    simp only [Sign.apply, Int.toNat_zero, Nat.shiftLeft_zero]
    omega
  rw [hunpack, hunpack']
  simp only [UnpackedFloat.sub, decreaseExponent, hmin, hone]

/-- There are 254 places. -/
theorem exists_exponent_eq {b : Nat} (h : b < 0x7F800000) :
    ∃ k : Fin 254, exponent b = (k : Nat) - 149 := by
  refine ⟨⟨max (b / 2 ^ 23) 1 - 1, by omega⟩, ?_⟩
  simp only [exponent]
  omega

end Rounding

namespace Single

open Float.Model (UnpackedFloat)
open Float.Model.UnpackedFloat
open Rounding

/-! ### Kinds of numbers -/

/-- A number that carries no sign: zero, something positive, or infinity. -/
def Unsigned (x : Single) : Prop :=
  x.bits ≤ infinity.bits

theorem toNat_abs (x : Single) : x.abs.bits.toNat = x.bits.toNat % 2 ^ 31 := by
  rw [abs, UInt32.toNat_and]
  exact Nat.and_two_pow_sub_one_eq_mod _ 31

theorem isNaN_eq_false {x : Single} :
    x.isNaN = false ↔ x.bits.toNat % 2 ^ 31 ≤ 0x7F800000 := by
  rw [isNaN, decide_eq_false_iff_not, ← toNat_abs, gt_iff_lt, UInt32.lt_iff_toNat_lt, Nat.not_lt]
  rfl

theorem isInfinite_eq_false {x : Single} :
    x.isInfinite = false ↔ x.bits.toNat % 2 ^ 31 ≠ 0x7F800000 := by
  rw [isInfinite, beq_eq_false_iff_ne, ← toNat_abs, ne_eq, ne_eq, ← UInt32.toNat_inj]
  rfl

theorem unsigned_iff {x : Single} : x.Unsigned ↔ x.bits.toNat ≤ 0x7F800000 :=
  UInt32.le_iff_toNat_le

theorem unsigned_zero : zero.Unsigned := by
  rw [unsigned_iff]
  decide

theorem unsigned_infinity : infinity.Unsigned := by
  rw [unsigned_iff]
  decide

theorem unsigned_abs {x : Single} (h : x.isNaN = false) : x.abs.Unsigned := by
  rw [isNaN_eq_false] at h
  rwa [unsigned_iff, toNat_abs]

theorem Unsigned.isNaN {x : Single} (h : x.Unsigned) : x.isNaN = false := by
  rw [unsigned_iff] at h
  rw [isNaN_eq_false]
  omega

/-- Without a sign the order of numbers is that of patterns. -/
theorem Unsigned.place {x : Single} (h : x.Unsigned) : x.place = x.bits.toNat := by
  rw [unsigned_iff] at h
  have hlt : x.bits < 0x80000000 :=
    UInt32.lt_iff_toNat_lt.mpr (Nat.lt_of_le_of_lt h (by decide))
  rw [Single.place, if_pos hlt, toNat_abs]
  omega

theorem Unsigned.lt_iff {x y : Single} (hx : x.Unsigned) :
    x.lt y = true ↔ y.isNaN = false ∧ x.bits.toNat < y.place := by
  simp [lt, hx.isNaN, hx.place]

/-! ### Arithmetic on what the bits stand for -/

/-- What the bits stand for. -/
def number (x : Single) : UnpackedFloat :=
  UnpackedFloat.unpack .binary32 x.bits.toBitVec

/-- The result of a computation. -/
def ofNumber (f : UnpackedFloat) : Single :=
  ofMachine (.ofModel (.pack f))

theorem unpack_toMachine {x : Single} (h : x.isNaN = false) :
    x.toMachine.toModel.unpack = x.number := by
  show UnpackedFloat.unpack .binary32 (UnpackedFloat.pack .binary32 x.number) = x.number
  rw [number, pack_unpack (isNaN_eq_false.mp h)]

/-- An operation of the machine computes with what the bits stand for. -/
theorem apply_eq_ofNumber {op : Float32 → Float32 → Float32}
    {compute : UnpackedFloat → UnpackedFloat → UnpackedFloat} {a b : Single}
    (hop : ∀ x y, op x y = .ofModel (.pack (compute x.toModel.unpack y.toModel.unpack)))
    (ha : a.isNaN = false) (hb : b.isNaN = false) :
    apply op a b = ofNumber (compute a.number b.number) := by
  rw [apply, if_neg (by simp [ha]), if_neg (by simp [hb]), hop, unpack_toMachine ha,
    unpack_toMachine hb, ofNumber]

section
variable {a b : Single}

theorem add_eq_ofNumber (ha : a.isNaN = false) (hb : b.isNaN = false) :
    a + b = ofNumber (UnpackedFloat.add .binary32 a.number b.number) :=
  apply_eq_ofNumber (fun _ _ => rfl) ha hb

theorem sub_eq_ofNumber (ha : a.isNaN = false) (hb : b.isNaN = false) :
    a - b = ofNumber (UnpackedFloat.sub .binary32 a.number b.number) :=
  apply_eq_ofNumber (fun _ _ => rfl) ha hb

theorem div_eq_ofNumber (ha : a.isNaN = false) (hb : b.isNaN = false) :
    a / b = ofNumber (UnpackedFloat.div .binary32 a.number b.number) :=
  apply_eq_ofNumber (fun _ _ => rfl) ha hb

end

theorem exists_number (x : Single) :
    ∃ (s : Sign) (e : BitVec 8) (m : BitVec 23),
      x.bits.toNat = s.toBitVec.toNat * 2 ^ 31 + (e.toNat * 2 ^ 23 + m.toNat) ∧
      x.number = UnpackedFloat.unpack .binary32 (packComponents .binary32 s e m) := by
  obtain ⟨s, e, m, h⟩ := exists_packComponents x.bits.toBitVec
  refine ⟨s, e, m, ?_, by rw [number, h]⟩
  rw [← toNat_packComponents, ← h]
  rfl

theorem Unsigned.hasSign {x : Single} (h : x.Unsigned) : HasSign .positive x.number := by
  obtain ⟨s, e, m, hbits, hnumber⟩ := x.exists_number
  rw [unsigned_iff, hbits] at h
  rw [hnumber]
  cases s with
  | positive => exact hasSign_unpack ((number_fields_iff e m).mpr (by simpa using h))
  | negative =>
    rw [toNat_negative] at h
    omega

theorem isFinite_number {x : Single} (hnan : x.isNaN = false) (hinf : x.isInfinite = false) :
    x.number.isFinite = true := by
  obtain ⟨s, e, m, hbits, hnumber⟩ := x.exists_number
  have hones : e ≠ -1#8 := by
    rintro rfl
    have hzero : m.toNat = 0 := by
      have hm := m.isLt
      rw [isNaN_eq_false, hbits] at hnan
      simp at hnan
      omega
    rw [isInfinite_eq_false, hbits, hzero] at hinf
    simp at hinf
  rw [hnumber, unpack_packComponents, if_neg hones]
  split
  · split <;> rfl
  · rfl

theorem ofNumber_notANumber : ofNumber .notANumber = indefinite := rfl

/-- What has a sign stays what it was packed into. -/
theorem bits_ofNumber {s : Sign} {f : UnpackedFloat} (h : HasSign s f) :
    (ofNumber f).bits.toNat = (UnpackedFloat.pack .binary32 f).toNat := by
  obtain ⟨e, m, hpack, hnumber⟩ := h.pack
  have hnan : (Float32.ofModel (.pack f)).isNaN = false := by
    show (UnpackedFloat.unpack .binary32 (UnpackedFloat.pack .binary32 f)).isNaN = false
    rw [hpack]
    exact (hasSign_unpack hnumber).isNaN
  rw [ofNumber, ofMachine, if_neg (ne_true_of_eq_false hnan)]
  rfl

theorem toNat_ofNumber {s : Sign} {f : UnpackedFloat} (h : HasSign s f) :
    ∃ r ≤ 0x7F800000, (ofNumber f).bits.toNat = s.toBitVec.toNat * 2 ^ 31 + r := by
  obtain ⟨e, m, hpack, hnumber⟩ := h.pack
  refine ⟨_, (number_fields_iff e m).mp hnumber, ?_⟩
  rw [bits_ofNumber h, hpack, toNat_packComponents]

theorem unsigned_ofNumber {f : UnpackedFloat} (h : HasSign .positive f) :
    (ofNumber f).Unsigned := by
  obtain ⟨r, hr, hbits⟩ := toNat_ofNumber h
  rw [unsigned_iff, hbits]
  simpa using hr

theorem isNaN_ofNumber {s : Sign} {f : UnpackedFloat} (h : HasSign s f) :
    (ofNumber f).isNaN = false := by
  obtain ⟨r, hr, hbits⟩ := toNat_ofNumber h
  rw [isNaN_eq_false, hbits]
  omega

/-! ### Kinds of results -/

section
variable {a b : Single}

theorem Unsigned.add (ha : a.Unsigned) (hb : b.Unsigned) : (a + b).Unsigned := by
  rw [add_eq_ofNumber ha.isNaN hb.isNaN]
  exact unsigned_ofNumber (ha.hasSign.add hb.hasSign)

theorem isNaN_sub (ha : a.isNaN = false) (ha' : a.isInfinite = false) (hb : b.isNaN = false)
    (hb' : b.isInfinite = false) : (a - b).isNaN = false := by
  rw [sub_eq_ofNumber ha hb]
  obtain ⟨s, hs⟩ := exists_hasSign_sub (isFinite_number ha ha') (isFinite_number hb hb')
  exact isNaN_ofNumber hs

theorem Unsigned.div (ha : a.Unsigned) (hb : b.Unsigned) :
    a / b = indefinite ∨ (a / b).Unsigned := by
  rw [div_eq_ofNumber ha.isNaN hb.isNaN]
  obtain hnone | hsign : _ = UnpackedFloat.notANumber ∨
      HasSign .positive (UnpackedFloat.div .binary32 a.number b.number) :=
    ha.hasSign.div hb.hasSign
  · exact .inl (by rw [hnone, ofNumber_notANumber])
  · exact .inr (unsigned_ofNumber hsign)

/-- Dividing by an ordinary positive number gives a number. -/
theorem Unsigned.div_ordinary (ha : a.Unsigned) (hpos : 0 < b.bits.toNat)
    (hlt : b.bits.toNat < 0x7F800000) : (a / b).Unsigned := by
  have hb : b.Unsigned := unsigned_iff.mpr (Nat.le_of_lt hlt)
  obtain ⟨h, hfinite⟩ : ∃ h, b.number =
      .finite .positive (coefficient b.bits.toNat) (exponent b.bits.toNat) h :=
    unpack_of_lt hpos hlt
  rw [div_eq_ofNumber ha.isNaN hb.isNaN, hfinite]
  exact unsigned_ofNumber (ha.hasSign.div_finite h)

/-- One unit of any place is an ordinary positive number. -/
theorem unit_ordinary : ∀ k : Fin 254,
    0 < (ofNumber (normalize .binary32 1 ((k : Nat) - 149) .positive)).bits.toNat ∧
      (ofNumber (normalize .binary32 1 ((k : Nat) - 149) .positive)).bits.toNat < 0x7F800000 := by
  decide +kernel

/-- What lies between neighbours is an ordinary positive number. -/
theorem sub_neighbour (hb : b.bits.toNat = a.bits.toNat + 1) (hlt : b.bits.toNat < 0x7F800000) :
    0 < (b - a).bits.toNat ∧ (b - a).bits.toNat < 0x7F800000 := by
  have hnumber {x : Single} (hx : x.bits.toNat < 0x7F800000) : x.isNaN = false :=
    (unsigned_iff.mpr (Nat.le_of_lt hx)).isNaN
  obtain hzero | hpos := Nat.eq_zero_or_pos a.bits.toNat
  · obtain rfl : a = ⟨0⟩ := congrArg Single.mk (UInt32.toNat_inj.mp hzero)
    obtain rfl : b = ⟨1⟩ := congrArg Single.mk (UInt32.toNat_inj.mp hb)
    decide
  · have hunit : UnpackedFloat.sub .binary32 b.number a.number =
        normalize .binary32 1 (exponent a.bits.toNat) .positive :=
      sub_succ hpos hb hlt
    obtain ⟨k, hk⟩ : ∃ k : Fin 254, exponent a.bits.toNat = (k : Nat) - 149 :=
      exists_exponent_eq (by omega)
    rw [sub_eq_ofNumber (hnumber hlt) (hnumber (by omega)), hunit, hk]
    exact unit_ordinary k

end

end Single

end Offload
