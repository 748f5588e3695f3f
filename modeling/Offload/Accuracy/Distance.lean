import Offload.Binary.Single

/-!
# Distances between results

A device may round differently from the host, so two results are compared by how many steps
of the number format lie between them.

* `spacing` — the step from a number to the next greater one.
* `distance` — how many steps of the expected number a value is away from it.
* `greatestDistance` — the greatest distance over two lists; lists of different length are
  infinitely far apart.
-/

namespace Offload.Accuracy

/-- The step from `|x|` to the next number of greater magnitude; from the greatest finite
number it is the step that led there. -/
def spacing (x : Single) : Single :=
  if x.isNaN then Single.nan
  else
    let magnitude := x.abs
    if magnitude.isInfinite then Single.infinity
    else if magnitude == Single.greatest then magnitude - ⟨magnitude.bits - 1⟩
    else ⟨magnitude.bits + 1⟩ - magnitude

/-- How far `value` is from `expected`, in steps of `expected`. Equal numbers have distance
zero; otherwise an operand that is infinite or no number makes the distance infinite. -/
def distance (value expected : Single) : Single :=
  if value == expected then Single.zero
  else if value.isNaN || expected.isNaN || value.isInfinite || expected.isInfinite then
    Single.infinity
  else (value - expected).abs / spacing expected

/-- The distances of paired elements. -/
def distances (values expected : List Single) : List Single :=
  values.zipWith distance expected

/-- The greatest distance of paired elements. -/
def greatestDistance (values expected : List Single) : Single :=
  if values.length = expected.length then
    (distances values expected).foldl Single.max Single.zero
  else Single.infinity

end Offload.Accuracy
