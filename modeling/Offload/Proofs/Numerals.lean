import Offload.Decimal.Natural

/-!
# Texts that stand for numbers

What is read as a number is one or more digits, after a plus sign if there is one. Zeros in front do
not count, and there may be any number of them, so that only the value decides whether a number is
too large.

* `Decimal.Numeral` — a text stands for a number.
* `Decimal.read?_eq_some_iff` — such texts are read, and no others.
* `Decimal.numeral_digits` — a number that is written stands for itself.
-/

namespace Offload.Decimal

variable {cs : List Char} {m n : Nat}

/-- The digits are the characters that have values. -/
theorem digitValue?_eq (c : Char) :
    digitValue? c = if c.isDigit then some (c.toNat - '0'.toNat) else none := by
  have hdigit : ('0' ≤ c ∧ c ≤ '9') ↔ c.isDigit = true := by
    rw [Char.isDigit, Bool.and_eq_true, decide_eq_true_iff, decide_eq_true_iff]
    rfl
  simp only [digitValue?, hdigit]

/-- A number is continued by digits, and by nothing else. -/
theorem continue?_eq_some_iff : continue? m cs = some n ↔
    (∀ c ∈ cs, c.isDigit = true) ∧ Nat.ofDigitChars 10 cs m = n := by
  induction cs generalizing m with
  | nil => simp [continue?]
  | cons c r ih =>
    rw [continue?, digitValue?_eq, List.forall_mem_cons, Nat.ofDigitChars_cons]
    by_cases hc : c.isDigit = true
    · rw [if_pos hc, Option.bind_some, ih, and_assoc, and_iff_right hc]
    · simp [hc]

theorem ofDigits?_eq_some_iff : ofDigits? cs = some n ↔
    cs ≠ [] ∧ (∀ c ∈ cs, c.isDigit = true) ∧ Nat.ofDigitChars 10 cs 0 = n := by
  cases cs with
  | nil => exact ⟨nofun, fun h => absurd rfl h.1⟩
  | cons c r =>
    rw [ofDigits?.eq_def, continue?_eq_some_iff, and_iff_right (List.cons_ne_nil c r)]

/-- A text stands for a number: there are one or more digits, and at most a plus sign before. -/
def Numeral (cs : List Char) (n : Nat) : Prop :=
  ∃ ds, (cs = ds ∨ cs = '+' :: ds) ∧ ds ≠ [] ∧ (∀ c ∈ ds, c.isDigit = true) ∧
    Nat.ofDigitChars 10 ds 0 = n

/-- What is read is what stands for a number that is not too large. -/
theorem read?_eq_some_iff {bound : Nat} :
    read? bound cs = some n ↔ Numeral cs n ∧ n < bound := by
  rw [read?.eq_def, Option.filter_eq_some_iff, decide_eq_true_iff, and_congr_left_iff]
  intro _
  rw [ofDigits?_eq_some_iff]
  split
  · rename_i r
    constructor
    · exact fun h => ⟨r, .inr rfl, h⟩
    · rintro ⟨ds, rfl | hds, h⟩
      · -- a plus sign is no digit
        exact absurd (h.2.1 '+' List.mem_cons_self) (by decide)
      · cases hds
        exact h
  · rename_i hplus
    constructor
    · exact fun h => ⟨cs, .inl rfl, h⟩
    · rintro ⟨ds, rfl | rfl, h⟩
      · exact h
      · exact absurd rfl (hplus ds)

/-- The digits of a number are digits, and stand for it. -/
theorem digits_spec (n : Nat) :
    digits n ≠ [] ∧ (∀ c ∈ digits n, c.isDigit = true) ∧ Nat.ofDigitChars 10 (digits n) 0 = n :=
  ofDigits?_eq_some_iff.mp (ofDigits?_digits n)

theorem numeral_digits (n : Nat) : Numeral (digits n) n :=
  ⟨digits n, .inl rfl, digits_spec n⟩

theorem toList_text (n : Nat) : (text n).toList = digits n := String.toList_ofList

end Offload.Decimal
