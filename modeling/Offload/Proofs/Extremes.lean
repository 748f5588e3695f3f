import Offload.Proofs.Verdict

/-!
# The extremes of distances

The greatest distance in a summary is that of some pair, and no pair is further apart. The least
distance is a bound as well, but it is found by going down from the greatest finite number. So it is
the distance of a pair only where some distance is finite; where all are infinite it is that number,
which is no distance of theirs.

* `Single.AtMost` — the order of numbers.
* `Accuracy.foldl_max_mem` — the greatest distance is the distance of a pair.
* `Accuracy.foldl_min_mem_iff` — when the least distance is.
* `Accuracy.compare_extremes` — what the summary says of both.
-/

namespace Offload

/-- Where one of two things is chosen over and over, the outcome is what it began with or one of the
things that came up. -/
theorem foldl_eq_or_mem {α : Type} {f : α → α → α} (hf : ∀ a b, f a b = a ∨ f a b = b) (a : α)
    (xs : List α) : xs.foldl f a = a ∨ xs.foldl f a ∈ xs := by
  induction xs generalizing a with
  | nil => exact .inl rfl
  | cons x r ih =>
    rw [List.foldl_cons]
    rcases ih (f a x) with hstart | hmem
    · rw [hstart]
      rcases hf a x with ha | hx
      · exact .inl ha
      · rw [hx]
        exact .inr List.mem_cons_self
    · exact .inr (List.mem_cons_of_mem _ hmem)

namespace Single

/-- Both are numbers, and `a` is not greater than `b`. -/
def AtMost (a b : Single) : Prop :=
  a.isNaN = false ∧ b.isNaN = false ∧ a.place ≤ b.place

theorem max_eq_or (a b : Single) : a.max b = a ∨ a.max b = b := by
  rw [Single.max]
  split_ifs <;> simp

theorem min_eq_or (a b : Single) : a.min b = a ∨ a.min b = b := by
  rw [Single.min]
  split_ifs <;> simp

section

variable {a b : Single} (ha : a.Unsigned) (hb : b.Unsigned)
include ha hb

theorem Unsigned.atMost_iff : a.AtMost b ↔ a.bits.toNat ≤ b.bits.toNat := by
  simp [AtMost, ha.isNaN, hb.isNaN, ha.place, hb.place]

theorem Unsigned.min : (a.min b).Unsigned ∧ (a.min b).bits.toNat ≤ a.bits.toNat ∧
    (a.min b).bits.toNat ≤ b.bits.toNat := by
  rw [Single.min, ha.isNaN, hb.isNaN]
  simp only [Bool.false_eq_true, if_false]
  split
  case isTrue hlt =>
    rw [hb.lt_iff, ha.place] at hlt
    exact ⟨hb, by omega, Nat.le_refl _⟩
  case isFalse hlt =>
    rw [hb.lt_iff, ha.place] at hlt
    have hle := mt (And.intro ha.isNaN) hlt
    exact ⟨ha, Nat.le_refl _, by omega⟩

end

/-- The least of numbers without a sign carries none and is at most as great as each. -/
theorem foldl_min_le_bits {a : Single} {xs : List Single} (ha : a.Unsigned)
    (hxs : ∀ x ∈ xs, x.Unsigned) :
    (xs.foldl Single.min a).Unsigned ∧
      (xs.foldl Single.min a).bits.toNat ≤ a.bits.toNat ∧
      ∀ x ∈ xs, (xs.foldl Single.min a).bits.toNat ≤ x.bits.toNat := by
  induction xs generalizing a with
  | nil => exact ⟨ha, Nat.le_refl _, fun _ hx => nomatch hx⟩
  | cons y ys ih =>
    obtain ⟨hmin, hleft, hright⟩ := ha.min (hxs y (List.mem_cons_self ..))
    obtain ⟨hfold, hstart, hrest⟩ := ih hmin fun x hx => hxs x (List.mem_cons_of_mem _ hx)
    refine ⟨hfold, Nat.le_trans hstart hleft, fun x hx => ?_⟩
    obtain rfl | hx := List.mem_cons.mp hx
    · exact Nat.le_trans hstart hright
    · exact hrest x hx

theorem unsigned_greatest : greatest.Unsigned := by
  rw [unsigned_iff]
  decide

/-- Between the greatest finite number and infinity there is nothing. -/
theorem Unsigned.eq_greatest {a : Single} (ha : a.Unsigned)
    (h : greatest.bits.toNat ≤ a.bits.toNat) (hfinite : a ≠ infinity) : a = greatest := by
  rw [unsigned_iff] at ha
  have hgreatest : greatest.bits.toNat = 0x7F7FFFFF := rfl
  have hinfinity : infinity.bits.toNat = 0x7F800000 := rfl
  have hbits : a.bits.toNat ≠ infinity.bits.toNat := fun hbits =>
    hfinite (congrArg Single.mk (UInt32.toNat_inj.mp hbits))
  have hnext : a.bits.toNat = greatest.bits.toNat := by omega
  exact congrArg Single.mk (UInt32.toNat_inj.mp hnext)

end Single

namespace Accuracy

variable {ds : List Single} (hds : ∀ d ∈ ds, d.Unsigned)
include hds

/-- The greatest distance is one of them: it is zero only where all are. -/
theorem foldl_max_mem (hne : ds ≠ []) : ds.foldl Single.max Single.zero ∈ ds := by
  obtain hzero | hmem := foldl_eq_or_mem Single.max_eq_or Single.zero ds
  · obtain ⟨d, r, rfl⟩ := List.exists_cons_of_ne_nil hne
    obtain ⟨-, -, hle⟩ := Single.bits_le_foldl_max Single.unsigned_zero hds
    have hd := hle d List.mem_cons_self
    rw [hzero] at hd ⊢
    have hbits : d.bits.toNat = Single.zero.bits.toNat := Nat.le_antisymm hd (Nat.zero_le _)
    obtain rfl : d = Single.zero := congrArg Single.mk (UInt32.toNat_inj.mp hbits)
    exact List.mem_cons_self
  · exact hmem

/-- The least distance is one of them if one of them is finite. -/
theorem foldl_min_mem_iff :
    ds.foldl Single.min Single.greatest ∈ ds ↔ ∃ d ∈ ds, d ≠ Single.infinity := by
  obtain ⟨-, hstart, hle⟩ := Single.foldl_min_le_bits Single.unsigned_greatest hds
  constructor
  · intro hmem
    refine ⟨_, hmem, fun hinfinity => ?_⟩
    rw [hinfinity] at hstart
    exact absurd hstart (by decide)
  · rintro ⟨d, hd, hfinite⟩
    obtain hgreatest | hmem := foldl_eq_or_mem Single.min_eq_or Single.greatest ds
    · rw [hgreatest] at hle ⊢
      exact (hds d hd).eq_greatest (hle d hd) hfinite ▸ hd
    · exact hmem

/-- Otherwise it is the greatest finite number. -/
theorem foldl_min_of_infinite (h : ∀ d ∈ ds, d = Single.infinity) :
    ds.foldl Single.min Single.greatest = Single.greatest := by
  obtain hgreatest | hmem := foldl_eq_or_mem Single.min_eq_or Single.greatest ds
  · exact hgreatest
  · obtain ⟨d, hd, hfinite⟩ := (foldl_min_mem_iff hds).mp hmem
    exact absurd (h d hd) hfinite

omit hds

/-- **What a summary says of the extremes.** There are two lists of the same length, which is not
zero. Then the greatest distance in their summary is the distance of a pair, and no distance is
greater. The least distance in their summary is not greater than any distance; it is the distance of
a pair exactly if some pair has a finite distance, and the greatest finite number if none has. -/
theorem compare_extremes (values reference : List Single)
    (hlength : values.length = reference.length) (hne : values ≠ []) :
    let ds := distances values reference
    let s := Summary.compare values reference
    (s.greatest ∈ ds ∧ ∀ d ∈ ds, d.AtMost s.greatest) ∧
      (∀ d ∈ ds, s.least.AtMost d) ∧
      (s.least ∈ ds ↔ ∃ d ∈ ds, d ≠ Single.infinity) ∧
      ((∀ d ∈ ds, d = Single.infinity) → s.least = Single.greatest) := by
  intro ds s
  have hds : ∀ d ∈ ds, d.Unsigned := fun _ => unsigned_of_mem_distances
  have hsome : ds ≠ [] := by
    have hpos := List.length_pos_of_ne_nil hne
    have hlen : ds.length = min values.length reference.length := List.length_zipWith
    exact List.ne_nil_of_length_pos (by omega)
  have hs : s = Summary.ofDistances ds := by
    show Summary.compare values reference = _
    rw [Summary.compare, if_neg (not_not_intro hlength), if_neg (by simpa using hne)]
  rw [hs]
  obtain ⟨hmax, -, hle⟩ := Single.bits_le_foldl_max Single.unsigned_zero hds
  obtain ⟨hmin, -, hge⟩ := Single.foldl_min_le_bits Single.unsigned_greatest hds
  exact ⟨⟨foldl_max_mem hds hsome, fun d hd => ((hds d hd).atMost_iff hmax).mpr (hle d hd)⟩,
    fun d hd => (hmin.atMost_iff (hds d hd)).mpr (hge d hd), foldl_min_mem_iff hds,
    foldl_min_of_infinite hds⟩

/-- One pair is infinitely far apart and one is a step apart: both extremes are distances. -/
theorem compare_extremes_mixed :
    let values := [Single.nan, ⟨0x3F800001⟩]
    let reference := [Single.one, Single.one]
    let s := Summary.compare values reference
    s.greatest = Single.infinity ∧ s.least = Single.one ∧
      s.greatest ∈ distances values reference ∧ s.least ∈ distances values reference := by
  intro values reference s
  have hds : distances values reference = [Single.infinity, Single.one] := by decide +kernel
  obtain ⟨⟨hgreatest, -⟩, -, hleast, -⟩ := compare_extremes values reference rfl nofun
  have hfinite : ∃ d ∈ distances values reference, d ≠ Single.infinity :=
    ⟨Single.one, by simp [hds], by decide⟩
  exact ⟨by decide +kernel, by decide +kernel, hgreatest, hleast.mpr hfinite⟩

/-- Where the only pair is infinitely far apart, the least distance in the summary is not infinite,
and so it is the distance of no pair. -/
theorem least_not_attained :
    let ds := distances [Single.nan] [Single.one]
    let s := Summary.compare [Single.nan] [Single.one]
    ds = [Single.infinity] ∧ s.greatest = Single.infinity ∧ s.least = Single.greatest ∧
      s.least ∉ ds := by
  intro ds s
  have hds : ds = [Single.infinity] := by decide +kernel
  have hleast : s.least = Single.greatest := by decide +kernel
  refine ⟨hds, by decide +kernel, hleast, ?_⟩
  rw [hds, hleast, List.mem_singleton]
  decide

end Accuracy

end Offload
