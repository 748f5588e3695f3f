import Offload.Binary.Format
import Offload.Decimal.Natural

/-!
# Reading a number

A numeral is an optional sign followed by `inf`, `infinity` or `nan` in any letter case, or by
decimal digits with at most one point among or beside them and an optional exponent. There
must be a digit before the exponent and one in it; nothing else may stand anywhere, blanks
included. The number is the one of the format that is nearest to the decimal.
-/

namespace Offload.Binary

/-- What a numeral says, before it is rounded to a format. -/
inductive Numeral where
  /-- no number -/
  | nan
  /-- an infinity -/
  | infinity
  /-- `coefficient * 10 ^ exponent` -/
  | decimal (coefficient : Nat) (exponent : Int)

/-- A decimal digit. -/
def isDigit (c : Char) : Bool :=
  (Decimal.digitValue? c).isSome

/-- The sign of a numeral and what follows it. -/
def splitSign : List Char → Bool × List Char
  | '-' :: r => (true, r)
  | '+' :: r => (false, r)
  | r => (false, r)

/-- The exponent that ends a numeral; an absent one is zero. -/
def readExponent? : List Char → Option Int
  | [] => some 0
  | c :: r =>
    if c = 'e' ∨ c = 'E' then
      let (negative, ds) := splitSign r
      (Decimal.ofDigits? ds).map fun n => if negative then -(n : Int) else n
    else none

/-- Reads digits, a point and an exponent. -/
def readDecimal? (cs : List Char) : Option Numeral :=
  let whole := cs.takeWhile isDigit
  let rest := cs.dropWhile isDigit
  let (fraction, rest) := match rest with
    | '.' :: r => (r.takeWhile isDigit, r.dropWhile isDigit)
    | r => ([], r)
  (Decimal.ofDigits? (whole ++ fraction)).bind fun coefficient =>
    (readExponent? rest).map fun e => .decimal coefficient (e - fraction.length)

/-- The words for infinity and for no number. -/
def readWord? (cs : List Char) : Option Numeral :=
  let word := String.ofList (cs.map Char.toLower)
  if word = "inf" ∨ word = "infinity" then some .infinity
  else if word = "nan" then some .nan
  else none

/-- The bits of the format's number for a signed numeral. -/
def Numeral.bits (f : Format) (negative : Bool) : Numeral → Nat
  | .nan => f.nanBits + if negative then f.signBit else 0
  | .infinity => f.infinityBits + if negative then f.signBit else 0
  | .decimal coefficient exponent => f.nearestDecimal negative coefficient exponent

/-- Reads a numeral to the bits of the format. -/
def Format.read? (f : Format) (cs : List Char) : Option Nat :=
  let (negative, body) := splitSign cs
  (readDecimal? body <|> readWord? body).map (Numeral.bits f negative)

end Offload.Binary
