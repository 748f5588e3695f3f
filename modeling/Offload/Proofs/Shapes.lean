import Offload.Container.FloatMatrix
import Offload.Container.Matrix4
import Offload.Proofs.Counts
import Offload.Proofs.Verdict

/-!
# Shapes and summaries

The summary of a comparison says in the sign of its average whether the shapes agree. No average
of distances is negative, infinite distances and distances without an average included, so the
sign says this and nothing else. What is compared with itself has the same shape, and if all of
it are numbers, there is no distance anywhere.

* `Accuracy.Summary.isMismatch_compare` — the sign of the average.
* `Accuracy.Summary.compare_self` — a list of numbers compared with itself.
* `Container.mismatch_of_shapes` — the same for vectors and matrices.
-/

namespace Offload

namespace Accuracy.Summary

variable {values reference : List Single}

theorem mismatch_eq :
    mismatch = ⟨Single.zero - Single.one, Single.zero, Single.zero, Single.zero⟩ :=
  rfl

theorem compare_of_ne (h : values.length ≠ reference.length) :
    compare values reference = mismatch :=
  if_pos h

/-- The average is negative where the lengths differ, and nowhere else. -/
theorem isMismatch_compare :
    (compare values reference).isMismatch = true ↔ values.length ≠ reference.length := by
  by_cases hlength : values.length = reference.length
  · refine iff_of_false ?_ (not_not_intro hlength)
    rw [compare, if_neg (not_not_intro hlength)]
    split
    · decide
    · rw [isMismatch_ofDistances fun _ => unsigned_of_mem_distances]
      exact Bool.false_ne_true
  · exact iff_of_true (compare_of_ne hlength ▸ rfl) hlength

/-! ### No distance anywhere -/

/-- Where there is no distance anywhere, nothing can be said but that. -/
theorem ofDistances_zeros {n : Nat} (hpos : 0 < n) (hlt : n < Decimal.sizeBound) :
    ofDistances (List.replicate n Single.zero) = none := by
  have hshare : Single.zero / Single.ofCount n = Single.zero :=
    Single.zero_div (Single.unsigned_ofCount n) (Single.ofCount_pos hpos hlt)
  have hsum : (List.replicate n Single.zero).foldl (· + ·) Single.zero = Single.zero :=
    foldl_replicate_self rfl n
  have hsquare : (Single.zero - Single.zero) * (Single.zero - Single.zero) = Single.zero := rfl
  -- the two other sums start elsewhere, and get to zero with the first distance
  obtain ⟨n, rfl⟩ : ∃ k, n = k + 1 := ⟨n - 1, by omega⟩
  have hleast : (List.replicate (n + 1) Single.zero).foldl Single.min Single.greatest =
      Single.zero := by
    rw [List.replicate_succ, List.foldl_cons]
    exact foldl_replicate_self rfl n
  have hsquares : Single.sum (List.replicate (n + 1) Single.zero) = Single.zero := by
    rw [Single.sum, List.replicate_succ, List.foldl_cons,
      show Single.negZero + Single.zero = Single.zero from rfl]
    exact foldl_replicate_self rfl n
  have hgreatest : (List.replicate (n + 1) Single.zero).foldl Single.max Single.zero =
      Single.zero :=
    foldl_replicate_self rfl _
  have hroot : Single.zero.sqrt = Single.zero := rfl
  simp only [ofDistances, List.length_replicate, List.map_replicate, hsum, hshare, hsquare,
    hleast, hgreatest, hsquares, hroot]
  rfl

/-- A list of numbers compared with itself. -/
theorem compare_self (hlt : values.length < Decimal.sizeBound)
    (h : ∀ x ∈ values, x.isNaN = false) : compare values values = none := by
  rw [compare, if_neg (not_not_intro rfl), distances_self h]
  split
  · rfl
  · rename_i hne
    refine ofDistances_zeros (List.length_pos_iff.mpr ?_) hlt
    rintro rfl
    exact hne rfl

end Accuracy.Summary

namespace Container

open Accuracy (Summary)

theorem FloatVector.length_toList (v : FloatVector) : v.toList.length = v.length := rfl

/-- **The sign of the average tells shapes apart, and nothing else.** The average in the summary
of two vectors is negative exactly if their lengths differ, that of two matrices exactly if they
differ in their numbers of rows or of columns, also where they have equally many elements, and
that of two four-by-four matrices never; whatever the elements are. Where shapes differ the
average is minus one and all else in the summary is zero. Where something that consists of
numbers is compared with itself, everything in the summary is zero; the length of a vector is a
size. -/
theorem mismatch_of_shapes :
    let apart : Summary := ⟨Single.zero - Single.one, Single.zero, Single.zero, Single.zero⟩
    let same : Summary := ⟨Single.zero, Single.zero, Single.zero, Single.zero⟩
    (∀ v w : FloatVector, ((v.accuracy w).isMismatch = true ↔ v.length ≠ w.length) ∧
      (v.length ≠ w.length → v.accuracy w = apart)) ∧
    (∀ a b : FloatMatrix,
      ((a.accuracy b).isMismatch = true ↔ a.rows ≠ b.rows ∨ a.cols ≠ b.cols) ∧
      (a.rows ≠ b.rows ∨ a.cols ≠ b.cols → a.accuracy b = apart)) ∧
    (∀ a b : Matrix4, (a.accuracy b).isMismatch = false) ∧
    (∀ v : FloatVector, v.length < Decimal.sizeBound → (∀ x ∈ v.toList, x.isNaN = false) →
      v.accuracy v = same) ∧
    (∀ a : FloatMatrix, (∀ x ∈ a.data.toList, x.isNaN = false) → a.accuracy a = same) ∧
    ∀ a : Matrix4, (∀ x ∈ a.toList, x.isNaN = false) → a.accuracy a = same := by
  intro apart same
  have hapart : Summary.mismatch = apart := Summary.mismatch_eq
  refine ⟨fun v w => ⟨Summary.isMismatch_compare, fun h => ?_⟩, fun a b => ?_, fun a b => ?_,
    fun v hlt h => Summary.compare_self hlt h, fun a h => ?_, fun a h => ?_⟩
  · exact (Summary.compare_of_ne h).trans hapart
  · rw [FloatMatrix.accuracy]
    by_cases hshape : a.rows = b.rows ∧ a.cols = b.cols
    · have hsize : a.data.toList.length = b.data.toList.length := by
        rw [Array.length_toList, Array.length_toList, a.size_eq, b.size_eq, hshape.1, hshape.2]
      have hnot : ¬ (a.rows ≠ b.rows ∨ a.cols ≠ b.cols) := by tauto
      rw [if_pos hshape, Summary.isMismatch_compare]
      exact ⟨iff_of_false (not_not_intro hsize) hnot, fun h => absurd h hnot⟩
    · have hdiffer : a.rows ≠ b.rows ∨ a.cols ≠ b.cols := by tauto
      rw [if_neg hshape]
      exact ⟨iff_of_true rfl hdiffer, fun _ => hapart⟩
  · have hsize : a.toList.length = b.toList.length := by
      rw [Matrix4.toList, Matrix4.toList, Vector.length_toList, Vector.length_toList]
    rw [Matrix4.accuracy, Bool.eq_false_iff, ne_eq, Summary.isMismatch_compare]
    exact not_not_intro hsize
  · rw [FloatMatrix.accuracy, if_pos ⟨rfl, rfl⟩]
    refine Summary.compare_self ?_ h
    rw [Array.length_toList, a.size_eq]
    exact wrap_lt _
  · refine Summary.compare_self ?_ h
    rw [Matrix4.toList, Vector.length_toList]
    decide

/-- A matrix of two rows and three columns has another shape than its transpose, which has as many
elements. It has the same shape as itself, as has a vector with an infinity in it. -/
theorem mismatch_of_shapes_transposed :
    let apart : Summary := ⟨Single.zero - Single.one, Single.zero, Single.zero, Single.zero⟩
    let same : Summary := ⟨Single.zero, Single.zero, Single.zero, Single.zero⟩
    let a := FloatMatrix.zeros 2 3
    let b := FloatMatrix.zeros 3 2
    let v := FloatVector.ofList [Single.infinity, Single.one]
    a.transpose? = some b ∧ b.data.size = a.data.size ∧ a.accuracy b = apart ∧
      a.accuracy a = same ∧
      v.accuracy (.ofList [Single.nan]) = apart ∧ v.accuracy v = same ∧
      Matrix4.identity.accuracy .identity = same := by
  intro apart same a b v
  obtain ⟨hvector, hmatrix, -, hvector', hmatrix', hmatrix4⟩ := mismatch_of_shapes
  exact ⟨by decide, rfl, (hmatrix a b).2 (by decide), hmatrix' a (by decide),
    (hvector v _).2 (by decide), hvector' v (by decide) (by decide),
    hmatrix4 .identity (by decide)⟩

end Container

end Offload
