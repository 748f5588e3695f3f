import Offload.Binary.Format
import Offload.Decimal.Natural

/-!
# Text with a fixed number of places

The exact binary value is rounded to the given number of decimal places, a tie going to the
even last digit. The sign is kept also where only zeros are left.
-/

namespace Offload.Binary

/-- `scaled / Nat.pow 10 places` with all places written out. -/
def fixedPoint (places scaled : Nat) : String :=
  let ds := Decimal.digits scaled
  let ds := List.replicate (places + 1 - ds.length) '0' ++ ds
  let whole := ds.length - places
  let fraction := if places = 0 then [] else '.' :: ds.drop whole
  String.ofList (ds.take whole ++ fraction)

/-- The text of what a bit pattern stands for, with `places` decimal places. -/
def Datum.fixed (places : Nat) : Datum → String
  | .nan => "NaN"
  | .infinity negative => if negative then "-inf" else "inf"
  | .finite negative mantissa exponent _ =>
    let (up, down) := Format.scale 2 exponent
    let scaled := Format.divideToEven (mantissa * up * Nat.pow 10 places) down
    (if negative then "-" else "") ++ fixedPoint places scaled

end Offload.Binary
