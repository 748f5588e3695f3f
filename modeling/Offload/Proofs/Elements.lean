import Offload.Element.Type
import Offload.Memory.Arena

/-!
# Elements in bytes

An array of bytes is read and written element by element. An element that was written is read
back, and the other elements stay as they are; two arrays that hold the same elements and nothing
else are the same.

* `ElementType.valueAt_overwrite_self`, `ElementType.valueAt_overwrite_of_disjoint` — writing an
  element.
* `ElementType.valueAt_bytesOf` — reading a run of elements.
* `ElementType.eq_of_valueAt` — the elements determine the bytes.
-/

namespace Offload

namespace Bytes

variable {b b' : Bytes} {width offset offset' : Nat}

/-- A number depends on its bytes. -/
theorem natAt_congr (h : ∀ k < width, b.getD (offset + k) 0 = b'.getD (offset' + k) 0) :
    natAt b width offset = natAt b' width offset' := by
  induction width generalizing offset offset' with
  | zero => rfl
  | succ w ih =>
    have hrest : natAt b w (offset + 1) = natAt b' w (offset' + 1) := by
      refine ih fun k hk => ?_
      rw [Nat.add_right_comm offset, Nat.add_right_comm offset']
      exact h (k + 1) (by omega)
    have hfirst : b.getD offset 0 = b'.getD offset' 0 := h 0 (by omega)
    rw [natAt, natAt, hrest, hfirst]

/-- A number has as many digits as it has bytes. -/
theorem natAt_lt (b : Bytes) (width offset : Nat) : natAt b width offset < Nat.pow 256 width := by
  induction width generalizing offset with
  | zero => exact Nat.one_pos
  | succ w ih =>
    have hrest := ih (offset + 1)
    have hfirst := (b.getD offset 0).toNat_lt
    have hpow : Nat.pow 256 (w + 1) = Nat.pow 256 w * 256 := rfl
    rw [natAt, hpow]
    omega

/-- Equal numbers have equal bytes. -/
theorem getD_of_natAt (h : natAt b width offset = natAt b' width offset') {k : Nat}
    (hk : k < width) : b.getD (offset + k) 0 = b'.getD (offset' + k) 0 := by
  induction width generalizing offset offset' k with
  | zero => omega
  | succ w ih =>
    rw [natAt, natAt] at h
    have hb := (b.getD offset 0).toNat_lt
    have hb' := (b'.getD offset' 0).toNat_lt
    cases k with
    | zero =>
      have hfirst : (b.getD offset 0).toNat = (b'.getD offset' 0).toNat := by omega
      exact UInt8.toNat_inj.mp hfirst
    | succ k =>
      have htail : natAt b w (offset + 1) = natAt b' w (offset' + 1) := by omega
      have hrest := ih htail (Nat.lt_of_succ_lt_succ hk)
      rwa [Nat.add_right_comm offset, Nat.add_right_comm offset'] at hrest

/-- A byte of a stretch stands at its place in the array. -/
theorem getD_extract (b : Bytes) {n k : Nat} (hk : k < n) :
    (b.extract 0 n).getD k 0 = b.getD k 0 := by
  rw [Array.getD_eq_getD_getElem?, Array.getD_eq_getD_getElem?, Array.getElem?_extract]
  split
  · rw [Nat.zero_add]
  · rw [Array.getElem?_eq_none (by omega)]

end Bytes

namespace ElementType

variable {b b' : Bytes} {offset offset' : Nat}

/-- An element depends on its bytes. -/
theorem valueAt_congr (t : ElementType)
    (h : ∀ k < t.bytes, b.getD (offset + k) 0 = b'.getD (offset' + k) 0) :
    t.valueAt b offset = t.valueAt b' offset' := by
  cases t with
  | scalar t => exact congrArg t.decode (Bytes.natAt_congr (by simpa [bytes] using h))
  | vector t n =>
    refine congrArg Vector.ofFn (funext fun i => congrArg t.decode (Bytes.natAt_congr ?_))
    intro k hk
    have hlane : i.val * t.bytes + k < n * t.bytes := by
      have := Nat.mul_le_mul_right t.bytes (Nat.succ_le_of_lt i.isLt)
      rw [Nat.succ_mul] at this
      omega
    rw [Nat.add_assoc, Nat.add_assoc]
    exact h _ (by simpa [bytes, Nat.mul_comm] using hlane)

/-- An element outside the stretch that was written is the same. -/
theorem valueAt_overwrite_of_disjoint (t : ElementType) (b : Bytes) (xs : List UInt8)
    (h : offset' + t.bytes ≤ offset ∨ offset + xs.length ≤ offset') :
    t.valueAt (b.overwrite offset xs) offset' = t.valueAt b offset' :=
  t.valueAt_congr fun k hk => Bytes.getD_overwrite_of_not_mem _ _ _ (by omega)

/-- An element of a stretch stands at its place in the array. -/
theorem valueAt_extract (t : ElementType) (b : Bytes) {n : Nat} (h : offset + t.bytes ≤ n) :
    t.valueAt (b.extract 0 n) offset = t.valueAt b offset :=
  t.valueAt_congr fun k hk => Bytes.getD_extract b (by omega)

variable {t : ElementType}

/-- A byte of a run of pieces of one length belongs to one of the pieces. -/
theorem getD_flatMap {α : Type} {f : α → List UInt8} {n : Nat} (hlen : ∀ v, (f v).length = n)
    {vs : List α} {i k : Nat} {v : α} (h : vs[i]? = some v) (hk : k < n) :
    (vs.flatMap f).getD (i * n + k) 0 = (f v).getD k 0 := by
  simp only [List.getD_eq_getElem?_getD]
  congr 1
  induction vs generalizing i with
  | nil => cases h
  | cons x r ih =>
    rw [List.flatMap_cons]
    cases i with
    | zero =>
      cases h
      rw [Nat.zero_mul, Nat.zero_add, List.getElem?_append_left (by rwa [hlen])]
    | succ i =>
      rw [List.getElem?_append_right (by rw [hlen, Nat.succ_mul]; omega), hlen, ← ih h]
      congr 1
      rw [Nat.succ_mul]
      omega

/-- The element whose bytes stand at a place. -/
theorem valueAt_eq (v : t.Value)
    (h : ∀ k < t.bytes, b.getD (offset + k) 0 = (t.toBytes v).getD k 0) :
    t.valueAt b offset = v := by
  cases t with
  | scalar t =>
    show t.decode _ = v
    rw [Bytes.natAt_ofNat b t.bytes offset (t.encode v) (t.encode_lt v) h, t.decode_encode]
  | vector t n =>
    refine Vector.ext fun i hi => ?_
    have hlane : v.toList[i]? = some v[i] := by simp [hi]
    have hnat : b.natAt t.bytes (offset + i * t.bytes) = t.encode v[i] := by
      refine Bytes.natAt_ofNat b _ _ _ (t.encode_lt _) fun k hk => ?_
      have hplace : i * t.bytes + k < t.bytes * n := by
        have := Nat.mul_le_mul_right t.bytes (Nat.succ_le_of_lt hi)
        rw [Nat.succ_mul, Nat.mul_comm n] at this
        omega
      rw [Nat.add_assoc, h _ hplace]
      exact getD_flatMap (fun lane => Bytes.length_ofNat _ _) hlane hk
    rw [valueAt, Vector.getElem_ofFn, hnat, t.decode_encode]

/-- An element that was written is read back. -/
theorem valueAt_overwrite_self (v : t.Value) (h : offset + t.bytes ≤ b.size) :
    t.valueAt (b.overwrite offset (t.toBytes v)) offset = v := by
  have hlen : (t.toBytes v).length = t.bytes := t.length_toBytes v
  refine valueAt_eq v fun k hk => ?_
  rw [Bytes.getD_overwrite_of_mem _ _ _ (hlen ▸ h) (hlen ▸ hk)]
  simp [hlen, hk]

/-- A byte of a run belongs to one of its elements. -/
theorem getD_bytesOf {vs : List t.Value} {i k : Nat} {v : t.Value} (h : vs[i]? = some v)
    (hk : k < t.bytes) : (t.bytesOf vs).getD (i * t.bytes + k) 0 = (t.toBytes v).getD k 0 := by
  rw [bytesOf, Array.getD_eq_getD_getElem?, List.getElem?_toArray, ← List.getD_eq_getElem?_getD]
  exact getD_flatMap t.length_toBytes h hk

/-- An element in a run is read at its place. -/
theorem valueAt_bytesOf {vs : List t.Value} {i : Nat} {v : t.Value} (h : vs[i]? = some v) :
    t.valueAt (t.bytesOf vs) (i * t.bytes) = v :=
  valueAt_eq v fun _ hk => getD_bytesOf h hk

theorem length_valuesOf (t : ElementType) (b : Bytes) (n : Nat) : (t.valuesOf b n).length = n := by
  simp [valuesOf]

/-- Elements that were written are read back, all of them. -/
theorem valuesOf_bytesOf (vs : List t.Value) : t.valuesOf (t.bytesOf vs) vs.length = vs := by
  refine List.ext_getElem (length_valuesOf _ _ _) fun i _ hi => ?_
  simp only [valuesOf, List.getElem_map, List.getElem_range]
  exact valueAt_bytesOf (List.getElem?_eq_getElem hi)

/-- The values determine the bytes. Only truth values can be coded in more than one way. -/
theorem eq_of_valueAt {t : ScalarType} {n : Nat} (ht : t ≠ .bool) (hb : b.size = t.bytes * n)
    (hb' : b'.size = t.bytes * n)
    (h : ∀ i < n, (scalar t).valueAt b (i * t.bytes) = (scalar t).valueAt b' (i * t.bytes)) :
    b = b' := by
  have hpos : 0 < t.bytes := by cases t <;> decide
  refine Array.ext (hb.trans hb'.symm) fun j hj hj' => ?_
  -- the byte stands in the value at place `j / t.bytes`
  have hi : j / t.bytes < n := Nat.div_lt_of_lt_mul (hb ▸ hj)
  have hnat := congrArg t.encode (h _ hi)
  simp only [valueAt] at hnat
  rw [ScalarType.encode_decode ht (Bytes.natAt_lt _ _ _),
    ScalarType.encode_decode ht (Bytes.natAt_lt _ _ _)] at hnat
  have hbyte := Bytes.getD_of_natAt hnat (Nat.mod_lt j hpos)
  rw [Nat.mul_comm, Nat.div_add_mod] at hbyte
  simpa [Array.getD, hj, hj'] using hbyte

/-- The bytes of values that were read from bytes are those bytes. -/
theorem bytesOf_valuesOf {t : ScalarType} {n : Nat} (ht : t ≠ .bool) (hb : b.size = t.bytes * n) :
    (scalar t).bytesOf ((scalar t).valuesOf b n) = b := by
  have hlen := (scalar t).length_valuesOf b n
  refine eq_of_valueAt ht ?_ hb fun i hi => ?_
  · rw [size_bytesOf, hlen]
    rfl
  · refine valueAt_bytesOf ?_
    simp [valuesOf, hi, bytes]

end ElementType

end Offload
