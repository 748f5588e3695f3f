import Offload.Container.Error
import Offload.Element.Type

/-!
# Four lanes

Four single-precision numbers that are handled as one element.
-/

namespace Offload.Container

/-- Four single-precision lanes. -/
structure Float4 where
  /-- the lanes in order -/
  lanes : Vector Single 4
deriving DecidableEq

namespace Float4

/-- Four lanes from their numbers. -/
def mk4 (x y z w : Single) : Float4 := ⟨#v[x, y, z, w]⟩

/-- The same number in every lane. -/
def splat (value : Single) : Float4 := ⟨Vector.replicate 4 value⟩

instance : Inhabited Float4 := ⟨splat Single.zero⟩

/-- The first lane. -/
def x (a : Float4) : Single := a.lanes[0]

/-- The second lane. -/
def y (a : Float4) : Single := a.lanes[1]

/-- The third lane. -/
def z (a : Float4) : Single := a.lanes[2]

/-- The fourth lane. -/
def w (a : Float4) : Single := a.lanes[3]

/-- The lanes as a list. -/
def toList (a : Float4) : List Single := a.lanes.toList

/-- The lane of a number, if there is such a lane. -/
def lane? (a : Float4) (i : Nat) : Option Single := a.lanes[i]?

/-- Four consecutive elements; `none` where the array ends before the fourth. -/
def load? (data : Array Single) (offset : Nat) : Option Float4 :=
  if h : offset + 4 ≤ data.size then
    some ⟨Vector.ofFn fun i : Fin 4 => data[offset + i.val]⟩
  else none

/-- The array with the lanes written from `offset` on; `none` where they do not fit. -/
def store? (a : Float4) (data : Array Single) (offset : Nat) : Option (Array Single) :=
  if offset + 4 ≤ data.size then
    some ((((data.setIfInBounds offset a.x).setIfInBounds (offset + 1) a.y).setIfInBounds
      (offset + 2) a.z).setIfInBounds (offset + 3) a.w)
  else none

/-- The sum of the lanes. -/
def sum (a : Float4) : Single := Single.sum a.toList

/-- The sum of the products of the lanes. -/
def dot (a b : Float4) : Single := Single.dot a.toList b.toList

instance : Add Float4 := ⟨fun a b => ⟨Vector.zipWith (· + ·) a.lanes b.lanes⟩⟩
instance : Sub Float4 := ⟨fun a b => ⟨Vector.zipWith (· - ·) a.lanes b.lanes⟩⟩
instance : Mul Float4 := ⟨fun a b => ⟨Vector.zipWith (· * ·) a.lanes b.lanes⟩⟩
instance : BEq Float4 := ⟨fun a b => a.toList == b.toList⟩

/-- The lanes in braces, with three decimal places. -/
def text (a : Float4) : String :=
  "\x7b" ++ String.intercalate "," (a.toList.map (Single.fixed 3)) ++ "\x7d"

end Float4

end Offload.Container
