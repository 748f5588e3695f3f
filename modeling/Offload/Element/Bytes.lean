/-!
# Bytes

Device memory and transfers deal in bytes. A natural number takes up a given number of bytes,
the least significant first.

* `ofNat` — the bytes of a number.
* `natAt` — the number at a position of an array of bytes.

`natAt_ofNat` says that a number that fits is read back from its bytes, wherever in an array
they stand.
-/

namespace Offload

/-- A run of bytes. -/
abbrev Bytes : Type := Array UInt8

namespace Bytes

/-- The `width` lowest bytes of a number. -/
def ofNat : (width : Nat) → Nat → List UInt8
  | 0, _ => []
  | width + 1, n => n.toUInt8 :: ofNat width (n / 256)

/-- The number whose `width` bytes start at `offset`; missing bytes count as zero. -/
def natAt (b : Bytes) : (width offset : Nat) → Nat
  | 0, _ => 0
  | width + 1, offset => (b.getD offset 0).toNat + 256 * natAt b width (offset + 1)

/-- `size` zero bytes. -/
def zeros (size : Nat) : Bytes :=
  Array.replicate size 0

/-- The bytes with those from `offset` on overwritten, as far as there are any. -/
def overwrite (b : Bytes) (offset : Nat) : List UInt8 → Bytes
  | [] => b
  | x :: xs => overwrite (b.setIfInBounds offset x) (offset + 1) xs

@[simp] theorem length_ofNat (width n : Nat) : (ofNat width n).length = width := by
  induction width generalizing n with
  | zero => rfl
  | succ w ih => simp [ofNat, ih]

@[simp] theorem size_zeros (size : Nat) : (zeros size).size = size := by
  simp [zeros]

@[simp] theorem size_overwrite (b : Bytes) (offset : Nat) (xs : List UInt8) :
    (b.overwrite offset xs).size = b.size := by
  induction xs generalizing b offset with
  | nil => rfl
  | cons x xs ih => simp [overwrite, ih]

/-- A byte outside the overwritten stretch stays as it is. -/
theorem getD_overwrite_of_not_mem (b : Bytes) (offset : Nat) (xs : List UInt8) {i : Nat}
    (h : i < offset ∨ offset + xs.length ≤ i) :
    (b.overwrite offset xs).getD i 0 = b.getD i 0 := by
  induction xs generalizing b offset with
  | nil => rfl
  | cons x xs ih =>
    simp only [List.length_cons] at h
    rw [overwrite, ih _ _ (by omega)]
    simp only [Array.getD_eq_getD_getElem?]
    rw [Array.getElem?_setIfInBounds_ne (by omega)]

/-- A byte of the overwritten stretch is the one written there. -/
theorem getD_overwrite_of_mem (b : Bytes) (offset : Nat) (xs : List UInt8)
    (hb : offset + xs.length ≤ b.size) {k : Nat} (hk : k < xs.length) :
    (b.overwrite offset xs).getD (offset + k) 0 = xs[k] := by
  induction xs generalizing b offset k with
  | nil => exact absurd hk (by simp)
  | cons x xs ih =>
    simp only [List.length_cons] at hb hk
    rw [overwrite]
    cases k with
    | zero =>
      have h0 : offset < b.size := by omega
      simp only [Nat.add_zero, List.getElem_cons_zero]
      rw [getD_overwrite_of_not_mem _ _ _ (Or.inl (by omega)), Array.getD_eq_getD_getElem?,
        Array.getElem?_setIfInBounds_self_of_lt h0]
      rfl
    | succ k =>
      have hsize : offset + 1 + xs.length ≤ (b.setIfInBounds offset x).size := by
        rw [Array.size_setIfInBounds]; omega
      have := ih (b.setIfInBounds offset x) (offset + 1) hsize (k := k) (by omega)
      rw [show offset + (k + 1) = offset + 1 + k by omega, this]
      simp

/-- **Reading back.** Where an array holds the bytes of a number that fits, the number is
read. -/
theorem natAt_ofNat (b : Bytes) (width offset n : Nat) (hn : n < Nat.pow 256 width)
    (hb : ∀ k < width, b.getD (offset + k) 0 = (ofNat width n).getD k 0) :
    natAt b width offset = n := by
  induction width generalizing offset n with
  | zero =>
    have hzero : n < 1 := hn
    simp only [natAt]
    omega
  | succ w ih =>
    have h0 : b.getD offset 0 = n.toUInt8 := hb 0 (by omega)
    have hrest : ∀ k < w, b.getD (offset + 1 + k) 0 = (ofNat w (n / 256)).getD k 0 := by
      intro k hk
      have := hb (k + 1) (by omega)
      rw [show offset + 1 + k = offset + (k + 1) by omega, this]
      simp [ofNat]
    have hlt : n / 256 < Nat.pow 256 w := by
      have hsucc : n < Nat.pow 256 w * 256 := hn
      omega
    rw [natAt, ih (offset + 1) (n / 256) hlt hrest, h0]
    simp only [Nat.toUInt8_eq, UInt8.toNat_ofNat']
    omega

end Bytes

end Offload
