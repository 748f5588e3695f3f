/-!
# Binary floating-point formats

A format has a sign bit, an exponent field and a fraction field. This module reads and writes
the *bits* of a format as exact mathematics over `Nat` and `Int`; arithmetic is elsewhere.

* `Format.decode` — what a bit pattern stands for: not a number, an infinity, or
  `± m * 2 ^ e` with natural `m`.
* `Format.nearest` — the bits of the number nearest to `num / den`, a tie going to the even
  fraction, and too large a number to infinity.
-/

namespace Offload.Binary

/-- The widths of the fields of a format. -/
structure Format where
  /-- number of fraction bits -/
  fractionBits : Nat
  /-- number of exponent bits -/
  exponentBits : Nat

namespace Format

/-- The 32-bit interchange format. -/
def single : Format := ⟨23, 8⟩

/-- The 64-bit interchange format. -/
def double : Format := ⟨52, 11⟩

variable (f : Format)

/-- The weight of the lowest fraction bit of the smallest numbers, as a power of two. -/
def minExponent : Int :=
  2 - (Nat.pow 2 (f.exponentBits - 1) : Nat) - f.fractionBits

/-- The bits of positive infinity: an exponent field of ones and an empty fraction. -/
def infinityBits : Nat :=
  (Nat.pow 2 f.exponentBits - 1) * Nat.pow 2 f.fractionBits

/-- The bits that stand for "not a number" where a computation has none to pass on. -/
def nanBits : Nat :=
  f.infinityBits + Nat.pow 2 (f.fractionBits - 1)

/-- The sign bit alone. -/
def signBit : Nat :=
  Nat.pow 2 (f.exponentBits + f.fractionBits)

end Format

/-- What a bit pattern stands for. -/
inductive Datum where
  /-- no number -/
  | nan
  /-- an infinity, with whether it is negative -/
  | infinity (negative : Bool)
  /-- `± mantissa * 2 ^ exponent`; `lowest` tells whether the fraction field is empty -/
  | finite (negative : Bool) (mantissa : Nat) (exponent : Int) (lowest : Bool)
deriving DecidableEq, Repr

namespace Format

variable (f : Format)

/-- What the given bits stand for. -/
def decode (bits : Nat) : Datum :=
  let negative := bits / f.signBit % 2 == 1
  let field := bits / Nat.pow 2 f.fractionBits % Nat.pow 2 f.exponentBits
  let fraction := bits % Nat.pow 2 f.fractionBits
  if field = Nat.pow 2 f.exponentBits - 1 then
    if fraction = 0 then .infinity negative else .nan
  else if field = 0 then
    .finite negative fraction f.minExponent false
  else
    .finite negative (Nat.pow 2 f.fractionBits + fraction) (f.minExponent + field - 1)
      (fraction == 0)

/-- Divide and round to the nearest natural number, a tie going to the even one. -/
def divideToEven (num den : Nat) : Nat :=
  let q := num / den
  let r := num % den
  if 2 * r < den then q
  else if 2 * r = den then q + q % 2
  else q + 1

/-- A power of two as a pair of factors, one for the numerator and one for the denominator. -/
def scale (base : Nat) (e : Int) : Nat × Nat :=
  (Nat.pow base e.toNat, Nat.pow base (-e).toNat)

/-- The largest `k` with `2 ^ k ≤ num / den`, for positive `num` and `den`. -/
def floorLog2 (num den : Nat) : Int :=
  let k : Int := (num.log2 : Int) - den.log2
  let (up, down) := scale 2 k
  if den * up ≤ num * down then k else k - 1

/-- The bits of the positive number that is nearest to `num / den`; zero if `num` is zero. -/
def nearestMagnitude (num den : Nat) : Nat :=
  if num = 0 then 0
  else
    let e := max (floorLog2 num den - f.fractionBits) f.minExponent
    let (up, down) := scale 2 e
    let q := divideToEven (num * down) (den * up)
    min ((e - f.minExponent).toNat * Nat.pow 2 f.fractionBits + q) f.infinityBits

/-- The bits of the number that is nearest to `± num / den`. -/
def nearest (negative : Bool) (num den : Nat) : Nat :=
  f.nearestMagnitude num den + if negative then f.signBit else 0

/-- The bits of the number that is nearest to `± coefficient * 10 ^ exponent`. An exponent so
far out that only zero or infinity can be nearest is not expanded. -/
def nearestDecimal (negative : Bool) (coefficient : Nat) (exponent : Int) : Nat :=
  let sign := if negative then f.signBit else 0
  let magnitude : Int := (coefficient.log2 : Int) / 4 + exponent
  if coefficient = 0 then sign
  else if magnitude > (Nat.pow 2 f.exponentBits : Nat) then f.infinityBits + sign
  else if exponent + coefficient.log2 < -(Nat.pow 2 (f.exponentBits + 1) : Nat) then sign
  else
    let (up, down) := scale 10 exponent
    f.nearest negative (coefficient * up) down

end Format

end Offload.Binary
