import Offload.Element.Cell
import Offload.Proofs.Elements
import Offload.Proofs.Measures
import Offload.Proofs.Numerals

/-!
# Scalars in their cells

A scalar of any type is kept in eight bytes, of which its value takes up one to eight. Nothing of
the value is lost there, and nothing is added: what is read back is what was put in, bit for bit,
and what stands behind it makes no difference.

* `Decimal.intText_eq` — integers are written in decimal.
* `Cell.read_ofValue` — a value is read back from its cell.
* `Scalar.cell_get?`, `Scalar.cell_asInt?`, `Scalar.cell_text` — a scalar does what its cell does.
* `Scalar.faithful_cell` — what becomes of a value in a cell.
-/

namespace Offload

/-! ### Decimals -/

namespace Decimal

theorem digitChar_eq {d : Nat} (h : d < 10) : digitChar d = d.digitChar := by
  match d with
  | 0 | 1 | 2 | 3 | 4 | 5 | 6 | 7 | 8 | 9 => rfl
  | n + 10 => omega

/-- The digits are those of the positional system with base ten. -/
theorem digits_eq (n : Nat) : digits n = Nat.toDigits 10 n := by
  induction n using Nat.strongRecOn with
  | _ n ih =>
    rw [digits]
    split
    · rename_i h
      rw [Nat.toDigits_of_lt_base h, digitChar_eq h]
    · rename_i h
      have hmod : n % 10 < 10 := Nat.mod_lt n (by decide)
      rw [ih (n / 10) (by omega), digitChar_eq hmod, ← Nat.toDigits_of_lt_base hmod,
        Nat.toDigits_append_toDigits (by decide) (by omega) hmod, Nat.div_add_mod]

theorem text_eq (n : Nat) : text n = toString n := by
  rw [text, digits_eq]
  rfl

theorem intText_eq (x : Int) : intText x = toString x := by
  cases x with
  | ofNat n => exact text_eq n
  | negSucc n => exact congrArg ("-" ++ ·) (text_eq (n + 1))

end Decimal

/-! ### Cells -/

/-- Bytes that are put in front are found in front. -/
theorem Bytes.take_overwrite {b : Bytes} {xs : List UInt8} (h : xs.length ≤ b.size) :
    (b.overwrite 0 xs).toList.take xs.length = xs := by
  have hfront := congrArg Array.toList (extract_overwrite (show xs.toArray.size ≤ b.size from h))
  simpa [List.extract_eq_take_drop] using hfront

/-- No value takes up more than eight bytes. -/
theorem ScalarType.bytes_le (t : ScalarType) : t.bytes ≤ 8 := by
  cases t <;> decide

namespace Cell

variable {t : ScalarType}

/-- A truth value is put into a cell as any other value is. -/
theorem ofBool_eq (v : Bool) : ofBool v = ofValue .bool v := by
  cases v <;> decide

/-- **A value is read back from its cell.** -/
theorem read_ofValue (v : t.Value) : (ofValue t v).read (.scalar t) = v := by
  refine ElementType.valueAt_overwrite_self (t := .scalar t) v ?_
  rw [Nat.zero_add, Bytes.size_zeros]
  exact t.bytes_le

/-- Only the type that a cell has can be asked for. -/
theorem get?_ofValue (v : t.Value) : (ofValue t v).get? (.scalar t) = some v := by
  rw [get?.eq_def, read_ofValue]
  exact if_pos rfl

theorem get?_of_ne {c : Cell} {u : ElementType} (h : u ≠ .scalar c.type) : c.get? u = none :=
  if_neg h

/-- The bytes of the value are in front. -/
theorem content_ofValue (v : t.Value) :
    (ofValue t v).content = Bytes.ofNat t.bytes (t.encode v) := by
  have hlen : (Bytes.ofNat t.bytes (t.encode v)).length = t.bytes := Bytes.length_ofNat _ _
  have hle : (Bytes.ofNat t.bytes (t.encode v)).length ≤ (Bytes.zeros 8).size := by
    rw [hlen, Bytes.size_zeros]
    exact t.bytes_le
  have htake := Bytes.take_overwrite hle
  rwa [hlen] at htake

/-- The cells of values with the same bytes are the same. -/
theorem ofValue_congr {v w : t.Value}
    (h : Bytes.ofNat t.bytes (t.encode v) = Bytes.ofNat t.bytes (t.encode w)) :
    ofValue t v = ofValue t w := by
  simp only [ofValue, h]

end Cell

namespace Scalar

theorem cell_eq (s : Scalar) : s.cell = .ofValue s.type s.value := by
  obtain ⟨type, v⟩ := s
  cases type with
  | bool => exact Cell.ofBool_eq v
  | _ => rfl

theorem cell_type (s : Scalar) : s.cell.type = s.type := by
  rw [cell_eq]
  rfl

theorem cell_content (s : Scalar) : s.cell.content = s.bytes := by
  rw [cell_eq, Cell.content_ofValue]
  rfl

theorem cell_get? (s : Scalar) (t : ElementType) : s.cell.get? t = s.get? t := by
  rw [cell_eq, get?]
  split
  · rename_i h
    cases h
    exact Cell.get?_ofValue s.value
  · rename_i h
    exact Cell.get?_of_ne (Ne.symm h)

theorem cell_asInt? (s : Scalar) : s.cell.asInt? = s.asInt? := by
  obtain ⟨type, v⟩ := s
  rw [cell_eq]
  have hget := Cell.get?_ofValue v
  cases type with
  | bool | float32 | float64 => rfl
  | int8 => exact congrArg (Option.map Int8.toInt) hget
  | int16 => exact congrArg (Option.map Int16.toInt) hget
  | int32 => exact congrArg (Option.map Int32.toInt) hget
  | int64 => exact congrArg (Option.map Int64.toInt) hget
  | uint8 => exact congrArg (Option.map fun v : UInt8 => (v.toNat : Int)) hget
  | uint16 => exact congrArg (Option.map fun v : UInt16 => (v.toNat : Int)) hget
  | uint32 => exact congrArg (Option.map fun v : UInt32 => (v.toNat : Int)) hget
  | uint64 =>
    rw [Cell.asInt?.eq_def, show (Cell.ofValue .uint64 v).get? _ = _ from hget]
    rfl

theorem cell_text (s : Scalar) : s.cell.text = s.text := by
  have hint := s.cell_asInt?
  obtain ⟨type, v⟩ := s
  rw [cell_eq] at hint ⊢
  have hread := Cell.read_ofValue v
  cases type with
  | bool => cases v <;> rfl
  | float32 => exact congrArg Single.text hread
  | float64 => exact congrArg Double.text hread
  | uint64 =>
    -- a number above the signed ones is read once more, as an unsigned one
    have hval : (Scalar.mk .uint64 v).asInt? =
        if v.toNat < intBound then some (v.toNat : Int) else none := rfl
    rw [Cell.text.eq_def, hint, hval]
    by_cases h : v.toNat < intBound
    · rw [if_pos h]
      rfl
    · rw [if_neg h]
      exact congrArg (Decimal.text ∘ UInt64.toNat) hread
  | _ =>
    rw [Cell.text.eq_def, hint]
    rfl

/-! ### What becomes of a value -/

/-- The bytes determine a value of a type. -/
theorem eq_iff {s s' : Scalar} : s = s' ↔ s.type = s'.type ∧ s.bytes = s'.bytes := by
  refine ⟨?_, ?_⟩
  · rintro rfl
    exact ⟨rfl, rfl⟩
  · obtain ⟨t, v⟩ := s
    obtain ⟨t', v'⟩ := s'
    rintro ⟨rfl, hbytes⟩
    have hread := congrArg (Cell.read · (.scalar t)) (Cell.ofValue_congr hbytes)
    rw [Cell.read_ofValue, Cell.read_ofValue] at hread
    exact congrArg (mk t) hread

/-- Every integer is written in decimal. -/
theorem text_of_integer? {s : Scalar} {x : Int} (h : s.integer? = some x) :
    s.text = toString x := by
  rw [← Decimal.intText_eq]
  obtain ⟨type, v⟩ := s
  cases type with
  | bool | float32 | float64 => cases h
  | _ =>
    cases h
    rfl

theorem exists_integer {s : Scalar} (h : s.type.isInt = true) : ∃ x, s.integer? = some x ∧
    s.text = toString x ∧ s.asInt? = if x < intBound then some x else none := by
  obtain ⟨x, hx, -⟩ := integer_cases h
  refine ⟨x, hx, text_of_integer? hx, ?_⟩
  split
  · rename_i hlt
    exact asInt?_eq_some_iff.mpr ⟨hx, hlt⟩
  · rename_i hge
    refine Option.eq_none_iff_forall_ne_some.mpr fun y hy => hge ?_
    obtain ⟨hy', hlt⟩ := asInt?_eq_some_iff.mp hy
    cases hx.symm.trans hy'
    exact hlt

theorem asInt?_of_not_isInt {s : Scalar} (h : s.type.isInt = false) : s.asInt? = none := by
  obtain ⟨type, v⟩ := s
  cases type with
  | bool | float32 | float64 => rfl
  | _ => cases h

/-- **A cell is faithful to its value.** A scalar is what its cell is: both give the same value to
whoever asks for one, the same integer, the same text and the same bytes, and scalars are equal
where their cells are.

* Who asks for the type of a value gets the value, and nobody else gets anything.
* An integer of any width is written in decimal, and is at hand as a signed number of 64 bits unless
  it is too large; no other value is.
* Cells are equal where they are cells of one type whose values have the same bytes. -/
theorem faithful_cell :
    (∀ s : Scalar, (∀ t, s.cell.get? t = s.get? t) ∧ s.cell.asInt? = s.asInt? ∧
      s.cell.text = s.text ∧ s.cell.content = s.bytes ∧ ∀ s', s.cell = s'.cell ↔ s = s') ∧
    (∀ (t : ScalarType) (v : t.Value), (mk t v).cell.get? (.scalar t) = some v ∧
      ∀ u, u ≠ .scalar t → (mk t v).cell.get? u = none) ∧
    (∀ s : Scalar, s.type.isInt = true → ∃ x, s.integer? = some x ∧ s.cell.text = toString x ∧
      s.cell.asInt? = if x < intBound then some x else none) ∧
    (∀ s : Scalar, s.type.isInt = false → s.cell.asInt? = none) ∧
    ∀ s s' : Scalar, s.cell = s'.cell ↔
      s.cell.type = s'.cell.type ∧ s.cell.content = s'.cell.content := by
  have heq (s s' : Scalar) : s.cell = s'.cell ↔ s = s' := by
    refine ⟨fun h => eq_iff.mpr ⟨?_, ?_⟩, congrArg cell⟩
    · rw [← s.cell_type, h, s'.cell_type]
    · rw [← s.cell_content, h, s'.cell_content]
  refine ⟨fun s => ?_, fun t v => ⟨?_, fun u hu => ?_⟩, fun s h => ?_, fun s h => ?_,
    fun s s' => ?_⟩
  · exact ⟨s.cell_get?, s.cell_asInt?, s.cell_text, s.cell_content, heq s⟩
  · rw [cell_eq]
    exact Cell.get?_ofValue v
  · exact Cell.get?_of_ne (cell_type ⟨t, v⟩ ▸ hu)
  · rw [cell_text, cell_asInt?]
    exact exists_integer h
  · rw [cell_asInt?]
    exact asInt?_of_not_isInt h
  · rw [heq, eq_iff, cell_type, cell_type, cell_content, cell_content]

/-- The greatest unsigned number has no signed one beside it, and is still written out. The bytes of
a small negative number would be those of a great unsigned number, and the zeros behind make no
difference. A number that is none keeps what is left of its bits. -/
theorem faithful_cell_extremes :
    let greatest : Scalar := ⟨.uint64, 0xFFFFFFFFFFFFFFFF⟩
    let small : Scalar := ⟨.int16, -2⟩
    let nan : Scalar := ⟨.float32, ⟨0x7FA00001⟩⟩
    greatest.cell.text = "18446744073709551615" ∧ greatest.cell.asInt? = none ∧
      small.cell.content = [0xFE, 0xFF] ∧ small.cell.text = "-2" ∧ small.cell.asInt? = some (-2) ∧
      small.cell.get? (.scalar .uint16) = none ∧
      nan.cell.asInt? = none ∧ nan.cell.get? (.scalar .float32) = some ⟨0x7FA00001⟩ ∧
      nan.cell.get? .float4 = none := by
  intro greatest small nan
  obtain ⟨hcell, hget, hint, hnone, -⟩ := faithful_cell
  obtain ⟨x, hx, htext, hasInt⟩ := hint greatest (by decide)
  cases hx
  obtain ⟨y, hy, htext', hasInt'⟩ := hint small (by decide)
  cases hy
  exact ⟨htext.trans (by decide), hasInt.trans (by decide), (hcell small).2.2.2.1.trans (by decide),
    htext'.trans (by decide), hasInt'.trans (by decide), (hget .int16 _).2 _ (by decide),
    hnone nan (by decide), (hget .float32 _).1, (hget .float32 _).2 _ (by decide)⟩

end Scalar

end Offload
