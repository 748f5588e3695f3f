/-!
# Natural numbers in decimal

Writing and reading of natural numbers.

* `digits` — the decimal digits of a number, without leading zeros.
* `ofDigits?` — the number that a non-empty run of digits stands for.
* `read?` — the same with an optional plus sign and an upper bound.

`ofDigits?_digits` says that reading gets back what was written.
-/

namespace Offload.Decimal

/-- The character of a digit below ten. -/
def digitChar (d : Nat) : Char :=
  Char.ofNat ('0'.toNat + d)

/-- The value of a digit character. -/
def digitValue? (c : Char) : Option Nat :=
  if '0' ≤ c ∧ c ≤ '9' then some (c.toNat - '0'.toNat) else none

/-- The decimal digits of a number, most significant first. -/
def digits (n : Nat) : List Char :=
  if n < 10 then [digitChar n] else digits (n / 10) ++ [digitChar (n % 10)]
termination_by n
decreasing_by omega

/-- A natural number as text. -/
def text (n : Nat) : String :=
  String.ofList (digits n)

/-- An integer as text: a minus sign where it is negative, then its magnitude. -/
def intText : Int → String
  | .ofNat n => text n
  | .negSucc n => "-" ++ text (n + 1)

/-- Continue a number by further digits; `none` if a character is no digit. -/
def continue? (n : Nat) : List Char → Option Nat
  | [] => some n
  | c :: r => (digitValue? c).bind fun d => continue? (10 * n + d) r

/-- The number that one or more digits stand for. -/
def ofDigits? : List Char → Option Nat
  | [] => none
  | cs => continue? 0 cs

/-- Reads a number below `bound`: digits, after at most one plus sign. -/
def read? (bound : Nat) (cs : List Char) : Option Nat :=
  let ds := match cs with
    | '+' :: r => r
    | r => r
  (ofDigits? ds).filter (· < bound)

/-- The least number that is too large for a size. -/
def sizeBound : Nat := Nat.pow 2 64

/-- Reads a size, which is a number below `sizeBound`. -/
def readSize? (s : String) : Option Nat :=
  read? sizeBound s.toList

/-- A digit character has the value that it was made from. -/
theorem digitValue?_digitChar {d : Nat} (h : d < 10) : digitValue? (digitChar d) = some d := by
  match d with
  | 0 | 1 | 2 | 3 | 4 | 5 | 6 | 7 | 8 | 9 => rfl
  | n + 10 => omega

/-- Digits are read one after the other. -/
theorem continue?_append (n : Nat) (cs ds : List Char) :
    continue? n (cs ++ ds) = (continue? n cs).bind fun m => continue? m ds := by
  induction cs generalizing n with
  | nil => rfl
  | cons c r ih =>
    simp only [List.cons_append, continue?]
    cases digitValue? c with
    | none => rfl
    | some d => exact ih (10 * n + d)

/-- Reading the digits of a number from zero gives the number. -/
theorem continue?_digits (n : Nat) : continue? 0 (digits n) = some n := by
  induction n using Nat.strongRecOn with
  | _ n ih =>
    rw [digits]
    split
    · rename_i h
      simp [continue?, digitValue?_digitChar h]
    · rename_i h
      rw [continue?_append, ih (n / 10) (by omega)]
      simp only [Option.bind_some, continue?]
      rw [digitValue?_digitChar (Nat.mod_lt n (by decide))]
      simp only [Option.bind_some, Option.some.injEq]
      omega

/-- No number is written without digits. -/
theorem digits_ne_nil (n : Nat) : digits n ≠ [] := by
  rw [digits]
  split <;> simp

/-- **Round trip.** Reading the digits of a number gives the number. -/
theorem ofDigits?_digits (n : Nat) : ofDigits? (digits n) = some n := by
  rcases h : digits n with _ | ⟨c, r⟩
  · exact absurd h (digits_ne_nil n)
  · rw [ofDigits?, ← h]
    · exact continue?_digits n
    · simp

end Offload.Decimal
