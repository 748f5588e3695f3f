import Offload.Accuracy.Summary
import Offload.Proofs.Rounding

/-!
# The verdict on a result

A result is accepted when the greatest distance from what was expected is below a threshold.
Taking the greatest passes over what is no number, so a distance that is no number would be
lost. There is none: every distance is a number that carries no sign.

* `Accuracy.unsigned_distance` — a distance is a number and carries no sign.
* `Accuracy.bits_le_foldl_max` — the greatest distance is at least as great as each.
* `Accuracy.within_eq` — the two verdicts agree.
* `Accuracy.accepted_result` — what they accept is close to what was expected, element by
  element.
-/

namespace Offload

namespace Single

/-! ### Folds over numbers without a sign -/

theorem Unsigned.beq_iff {a b : Single} (ha : a.Unsigned) (hb : b.Unsigned) :
    (a == b) = true ↔ a = b := by
  show (!a.isNaN && !b.isNaN && a.place == b.place) = true ↔ a = b
  rw [ha.isNaN, hb.isNaN, ha.place, hb.place]
  simp only [Bool.not_false, Bool.true_and, beq_iff_eq]
  rw [Int.natCast_inj, UInt32.toNat_inj]
  exact ⟨congrArg Single.mk, congrArg Single.bits⟩

theorem Unsigned.lt_zero {a : Single} (ha : a.Unsigned) : a.lt zero = false := by
  rw [Bool.eq_false_iff, ne_eq, ha.lt_iff, unsigned_zero.place]
  show ¬(_ ∧ (a.bits.toNat : Int) < (0 : Nat))
  omega

/-- What is below a threshold stays below it when it gets smaller. -/
theorem Unsigned.lt_of_le {a b t : Single} (ha : a.Unsigned) (hb : b.Unsigned)
    (hle : a.bits.toNat ≤ b.bits.toNat) (hlt : b.lt t = true) : a.lt t = true := by
  rw [hb.lt_iff] at hlt
  rw [ha.lt_iff]
  exact ⟨hlt.1, by omega⟩

/-- Nothing is greater than infinity. -/
theorem infinity_lt (t : Single) : infinity.lt t = false := by
  have hinfinity : infinity.bits.toNat = 0x7F800000 := rfl
  rw [Bool.eq_false_iff, ne_eq, unsigned_infinity.lt_iff, isNaN_eq_false, ← toNat_abs, hinfinity,
    place]
  split <;> omega

theorem Unsigned.max {a b : Single} (ha : a.Unsigned) (hb : b.Unsigned) :
    (a.max b).Unsigned ∧ a.bits.toNat ≤ (a.max b).bits.toNat ∧
      b.bits.toNat ≤ (a.max b).bits.toNat := by
  rw [Single.max, ha.isNaN, hb.isNaN]
  simp only [Bool.false_eq_true, if_false]
  split
  · rename_i hlt
    rw [ha.lt_iff, hb.place] at hlt
    exact ⟨hb, by omega, Nat.le_refl _⟩
  · rename_i hlt
    rw [ha.lt_iff, hb.place] at hlt
    have hle := mt (And.intro hb.isNaN) hlt
    exact ⟨ha, Nat.le_refl _, by omega⟩

/-- The greatest of numbers without a sign carries none and is at least as great as each. -/
theorem bits_le_foldl_max {a : Single} {xs : List Single} (ha : a.Unsigned)
    (hxs : ∀ x ∈ xs, x.Unsigned) :
    (xs.foldl Single.max a).Unsigned ∧
      a.bits.toNat ≤ (xs.foldl Single.max a).bits.toNat ∧
      ∀ x ∈ xs, x.bits.toNat ≤ (xs.foldl Single.max a).bits.toNat := by
  induction xs generalizing a with
  | nil => exact ⟨ha, Nat.le_refl _, fun _ hx => nomatch hx⟩
  | cons y ys ih =>
    obtain ⟨hmax, hleft, hright⟩ := ha.max (hxs y (List.mem_cons_self ..))
    obtain ⟨hfold, hstart, hrest⟩ := ih hmax fun x hx => hxs x (List.mem_cons_of_mem _ hx)
    refine ⟨hfold, Nat.le_trans hleft hstart, fun x hx => ?_⟩
    obtain rfl | hx := List.mem_cons.mp hx
    · exact Nat.le_trans hright hstart
    · exact hrest x hx

theorem unsigned_foldl_add {a : Single} {xs : List Single} (ha : a.Unsigned)
    (hxs : ∀ x ∈ xs, x.Unsigned) : (xs.foldl (· + ·) a).Unsigned := by
  induction xs generalizing a with
  | nil => exact ha
  | cons y ys ih =>
    exact ih (ha.add (hxs y (List.mem_cons_self ..))) fun x hx => hxs x (List.mem_cons_of_mem _ hx)

theorem unsigned_ofCount (n : Nat) : (ofCount n).Unsigned :=
  unsigned_ofNumber (Rounding.hasSign_normalize (Int.natCast_nonneg _) 0)

end Single

namespace Accuracy

/-! ### One distance -/

/-- The spacing of finite numbers is an ordinary positive number. -/
theorem spacing_ordinary {x : Single} (hnan : x.isNaN = false) (hinf : x.isInfinite = false) :
    0 < (spacing x).bits.toNat ∧ (spacing x).bits.toNat < 0x7F800000 := by
  have hmagnitude : x.abs.bits.toNat < 0x7F800000 := by
    rw [Single.isNaN_eq_false, ← Single.toNat_abs] at hnan
    rw [Single.isInfinite_eq_false, ← Single.toNat_abs] at hinf
    omega
  have habs : x.abs.isInfinite = false := by
    rw [Single.isInfinite_eq_false]
    omega
  have hgreatest : (x.abs == Single.greatest) = true ↔ x.abs = Single.greatest :=
    (Single.unsigned_abs hnan).beq_iff (Single.unsigned_iff.mpr (by decide))
  simp only [spacing, hnan, habs, Bool.false_eq_true, if_false, hgreatest]
  split
  case isTrue hlast =>
    rw [hlast]
    decide
  case isFalse hlast =>
    have hbits : x.abs.bits.toNat ≠ 0x7F7FFFFF := fun h =>
      hlast (congrArg Single.mk (UInt32.toNat_inj.mp h))
    have hnext : (x.abs.bits + 1).toNat = x.abs.bits.toNat + 1 := by
      have hone : (1 : UInt32).toNat = 1 := rfl
      rw [UInt32.toNat_add, hone]
      omega
    exact Single.sub_neighbour hnext (by rw [hnext]; omega)

/-- A distance is a number and carries no sign. -/
theorem unsigned_distance (value expected : Single) : (distance value expected).Unsigned := by
  rw [distance]
  split
  · exact Single.unsigned_zero
  · split
    · exact Single.unsigned_infinity
    · rename_i hfinite
      simp only [Bool.or_eq_true, not_or, Bool.not_eq_true] at hfinite
      obtain ⟨⟨⟨hvalue, hexpected⟩, hvalue'⟩, hexpected'⟩ := hfinite
      have hdifference : (value - expected).abs.Unsigned :=
        Single.unsigned_abs (Single.isNaN_sub hvalue hvalue' hexpected hexpected')
      obtain ⟨hpos, hlt⟩ := spacing_ordinary hexpected hexpected'
      exact hdifference.div_ordinary hpos hlt

theorem unsigned_of_mem_distances {values expected : List Single} {d : Single}
    (h : d ∈ distances values expected) : d.Unsigned := by
  obtain ⟨i, hi⟩ := List.mem_iff_getElem?.mp h
  rw [distances, List.getElem?_zipWith_eq_some] at hi
  obtain ⟨v, e, -, -, rfl⟩ := hi
  exact unsigned_distance v e

/-- Numbers whose distance is below a threshold are numbers, and equal or finite. -/
theorem of_distance_lt {value expected t : Single} (h : (distance value expected).lt t = true) :
    value.isNaN = false ∧ expected.isNaN = false ∧
      ((value == expected) = true ∨ value.isInfinite = false ∧ expected.isInfinite = false) := by
  rw [distance] at h
  split at h
  · rename_i heq
    have hparts : (!value.isNaN && !expected.isNaN && value.place == expected.place) = true := heq
    simp only [Bool.and_eq_true, Bool.not_eq_true'] at hparts
    exact ⟨hparts.1.1, hparts.1.2, .inl heq⟩
  · split at h
    · rw [Single.infinity_lt] at h
      cases h
    · rename_i hfinite
      simp only [Bool.or_eq_true, not_or, Bool.not_eq_true] at hfinite
      obtain ⟨⟨⟨hvalue, hexpected⟩, hvalue'⟩, hexpected'⟩ := hfinite
      exact ⟨hvalue, hexpected, .inr ⟨hvalue', hexpected'⟩⟩

/-! ### The two verdicts -/

/-- An average of distances is not negative. -/
theorem isMismatch_ofDistances {ds : List Single} (hds : ∀ d ∈ ds, d.Unsigned) :
    (Summary.ofDistances ds).isMismatch = false := by
  have hsum := Single.unsigned_foldl_add Single.unsigned_zero hds
  show (ds.foldl (· + ·) Single.zero / Single.ofCount ds.length).lt Single.zero = false
  obtain hnone | haverage := hsum.div (Single.unsigned_ofCount ds.length)
  · rw [hnone]
    rfl
  · exact haverage.lt_zero

/-- A summary accepts what the greatest distance alone accepts. -/
theorem within_eq (values expected : List Single) (t : Single) :
    (Summary.compare values expected).within t = (greatestDistance values expected).lt t := by
  rw [Summary.compare, greatestDistance]
  by_cases hlength : values.length = expected.length
  · rw [if_neg (not_not_intro hlength), if_pos hlength]
    cases values with
    | nil =>
      rw [List.isEmpty_nil, if_pos rfl]
      rfl
    | cons v vs =>
      rw [List.isEmpty_cons, if_neg Bool.false_ne_true, Summary.within,
        isMismatch_ofDistances fun _ => unsigned_of_mem_distances]
      rfl
  · rw [if_pos hlength, if_neg hlength, Single.infinity_lt]
    rfl

/-- What is accepted has the expected length, and every element is close to the expected one. -/
theorem of_greatestDistance_lt {values expected : List Single} {t : Single}
    (h : (greatestDistance values expected).lt t = true) :
    values.length = expected.length ∧
      ∀ (i : Nat) (v e : Single), values[i]? = some v → expected[i]? = some e →
        (distance v e).lt t = true := by
  rw [greatestDistance] at h
  split at h
  · rename_i hlength
    refine ⟨hlength, fun i v e hv he => ?_⟩
    have hdistances : ∀ d ∈ distances values expected, d.Unsigned := fun _ =>
      unsigned_of_mem_distances
    obtain ⟨hunsigned, -, hle⟩ := Single.bits_le_foldl_max Single.unsigned_zero hdistances
    have hmem : distance v e ∈ distances values expected :=
      List.mem_of_getElem? (i := i) (List.getElem?_zipWith_eq_some.mpr ⟨v, e, hv, he, rfl⟩)
    exact (unsigned_distance v e).lt_of_le hunsigned (hle _ hmem) h
  · rw [Single.infinity_lt] at h
    cases h

/-- A number is at no distance from itself. -/
theorem distance_self {x : Single} (h : x.isNaN = false) : distance x x = Single.zero := by
  refine if_pos ?_
  show (!x.isNaN && !x.isNaN && x.place == x.place) = true
  rw [h, beq_self_eq_true]
  rfl

theorem distances_self {xs : List Single} (h : ∀ x ∈ xs, x.isNaN = false) :
    distances xs xs = List.replicate xs.length Single.zero := by
  rw [distances, List.zipWith_self, List.eq_replicate_iff]
  refine ⟨List.length_map .., fun d hd => ?_⟩
  obtain ⟨x, hx, rfl⟩ := List.mem_map.mp hd
  exact distance_self (h x hx)

/-- Taking the same thing over and over changes nothing where it changes nothing once. -/
theorem foldl_replicate_self {α : Type} {f : α → α → α} {z : α} (h : f z z = z) (n : Nat) :
    (List.replicate n z).foldl f z = z := by
  induction n with
  | zero => rfl
  | succ n ih => rw [List.replicate_succ, List.foldl_cons, h, ih]

/-- **A bad result is never accepted.** The summary of the distances and the greatest distance
accept the same results at every threshold. A result that they accept has the length of what was
expected, and each of its elements is a number, equal to the expected one or finite like it, and
less than the threshold away. Behind this is that every distance is a number and none is
negative. -/
theorem accepted_result (values expected : List Single) (t : Single) :
    ((Summary.compare values expected).within t = true ↔
      (greatestDistance values expected).lt t = true) ∧
    ((Summary.compare values expected).within t = true →
      values.length = expected.length ∧
      ∀ (i : Nat) (v e : Single), values[i]? = some v → expected[i]? = some e →
        v.isNaN = false ∧ e.isNaN = false ∧
        ((v == e) = true ∨ v.isInfinite = false ∧ e.isInfinite = false) ∧
        (distance v e).lt t = true) ∧
    ∀ v e : Single, (distance v e).isNaN = false ∧ (distance v e).lt Single.zero = false := by
  have hagree := within_eq values expected t
  refine ⟨by rw [hagree], fun hwithin => ?_, fun v e => ?_⟩
  · rw [hagree] at hwithin
    obtain ⟨hlength, hclose⟩ := of_greatestDistance_lt hwithin
    refine ⟨hlength, fun i v e hv he => ?_⟩
    obtain ⟨hv', he', hfinite⟩ := of_distance_lt (hclose i v e hv he)
    exact ⟨hv', he', hfinite, hclose i v e hv he⟩
  · exact ⟨(unsigned_distance v e).isNaN, (unsigned_distance v e).lt_zero⟩

/-- One and the number after it are one step apart, which is less than two. -/
theorem accepted_result_one_step :
    let values := [Single.one, ⟨0x3F800001⟩]
    let expected := [Single.one, Single.one]
    (Summary.compare values expected).within ⟨0x40000000⟩ = true ∧
      (distance ⟨0x3F800001⟩ Single.one).lt ⟨0x40000000⟩ = true := by
  have hwithin : (Summary.compare [Single.one, ⟨0x3F800001⟩] [Single.one, Single.one]).within
      ⟨0x40000000⟩ = true := by
    decide +kernel
  obtain ⟨-, hclose, -⟩ :=
    accepted_result [Single.one, ⟨0x3F800001⟩] [Single.one, Single.one] ⟨0x40000000⟩
  exact ⟨hwithin, ((hclose hwithin).2 1 _ _ rfl rfl).2.2.2⟩

end Accuracy

end Offload
