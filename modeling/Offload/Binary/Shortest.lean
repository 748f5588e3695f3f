import Offload.Binary.Format
import Offload.Decimal.Natural

/-!
# Shortest decimal text

A number is written with the fewest decimal digits that read back as the same number; of two
such texts the one nearer to the number is taken, and of two equally near the greater. The
notation is positional whatever the magnitude, so there is no exponent, and a whole number
has no decimal point.

The reals that read back as `m * 2 ^ e` form an interval around it, from half way to the
number below to half way to the number above. The ends belong to it exactly when `m` is even.
A decimal of `k` fewer places is a multiple of `10 ^ k`, so the search goes down through the
powers of ten until one of the two multiples next to the number lies in the interval.
-/

namespace Offload.Binary

/-- A number `4 * centre * 2 ^ exponent` with its interval, in quarters of the last place. -/
structure Neighbourhood where
  /-- lower end -/
  low : Nat
  /-- the number itself -/
  centre : Nat
  /-- upper end -/
  high : Nat
  /-- power of two by which the three are scaled -/
  exponent : Int
  /-- whether the ends belong to the interval -/
  closed : Bool

namespace Neighbourhood

/-- The interval of `mantissa * 2 ^ exponent`. Below a power of two the numbers lie twice as
close, except at the bottom of the range. -/
def of (mantissa : Nat) (exponent : Int) (lowest : Bool) : Neighbourhood where
  low := 4 * mantissa - if lowest then 1 else 2
  centre := 4 * mantissa
  high := 4 * mantissa + 2
  exponent := exponent - 2
  closed := mantissa % 2 == 0

/-- The multiple of `10 ^ k` to write, given as a factor of `10 ^ k`, if there is one in the
interval. -/
def multiple? (b : Neighbourhood) (k : Int) : Option Nat :=
  let (up, down) := Format.scale 2 b.exponent
  let (tenUp, tenDown) := Format.scale 10 k
  let unit := down * tenUp
  let at' (x : Nat) := x * up * tenDown
  let inside (c : Nat) : Bool :=
    if b.closed then at' b.low ≤ c * unit && c * unit ≤ at' b.high
    else at' b.low < c * unit && c * unit < at' b.high
  let below := at' b.centre / unit
  let above := if at' b.centre % unit = 0 then below else below + 1
  match inside below, inside above with
  | true, true =>
    if at' b.centre - below * unit < above * unit - at' b.centre then some below else some above
  | true, false => some below
  | false, true => some above
  | false, false => none

/-- The first power of ten, going down from `10 ^ top`, that has a multiple in the interval. -/
def search (b : Neighbourhood) (top : Int) : Nat → Nat × Int
  | 0 => (0, top)
  | steps + 1 =>
    match b.multiple? top with
    | some c => (c, top)
    | none => b.search (top - 1) steps

end Neighbourhood

/-- `coefficient * 10 ^ exponent` in positional notation. -/
def positional (coefficient : Nat) (exponent : Int) : String :=
  let ds := Decimal.digits coefficient
  if 0 ≤ exponent then String.ofList (ds ++ List.replicate exponent.toNat '0')
  else
    let places := (-exponent).toNat
    let ds := List.replicate (places + 1 - ds.length) '0' ++ ds
    let whole := ds.length - places
    String.ofList (ds.take whole ++ '.' :: ds.drop whole)

/-- The shortest text of a positive number `mantissa * 2 ^ exponent`. The search starts at a
power of ten above the number and needs at most one step for each digit it can have. -/
def shortestMagnitude (mantissa : Nat) (exponent : Int) (lowest : Bool) : String :=
  let top : Int := ((mantissa.log2 : Int) + exponent) * 30103 / 100000 + 2
  let (c, k) := (Neighbourhood.of mantissa exponent lowest).search top 24
  positional c k

/-- The shortest text of what a bit pattern stands for. -/
def Datum.shortest : Datum → String
  | .nan => "NaN"
  | .infinity negative => if negative then "-inf" else "inf"
  | .finite negative mantissa exponent lowest =>
    (if negative then "-" else "") ++
      if mantissa = 0 then "0" else shortestMagnitude mantissa exponent lowest

end Offload.Binary
