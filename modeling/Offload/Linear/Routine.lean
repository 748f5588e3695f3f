import Offload.Binary.Single

/-!
# Linear algebra on the host

Three routines of single-precision linear algebra on matrices whose rows are stored one after
the other. Every sum goes from left to right. A routine has no result where it would have to
look beyond the end of an array.
-/

namespace Offload.Linear

/-- The `n` elements from `start` on, if there are so many. -/
def stretch? (a : Array Single) (start n : Nat) : Option (List Single) :=
  if start + n ≤ a.size then some (a.extract start (start + n)).toList else none

/-- The vector `y` with its first `m` elements replaced by the products of the rows of `a` and
`x`. Each row has `n` elements. -/
def sgemv (m n : Nat) (a x y : Array Single) : Option (Array Single) := do
  let rows := min m y.size
  let sums ← (List.range rows).mapM fun i =>
    (stretch? a (i * n) n).map fun row => Single.dot row x.toList
  return sums.toArray ++ y.extract rows y.size

/-- The vector `y` with `alpha` times the paired element of `x` added to each element. -/
def saxpy (alpha : Single) (x y : Array Single) : Array Single :=
  y.mapIdx fun i v => x[i]?.elim v fun w => v + alpha * w

/-- The product of row `i` of `a`, which has `k` elements, and column `j` of `b`, whose rows have
`n` elements. -/
def entry? (k n : Nat) (a b : Array Single) (i j : Nat) : Option Single := do
  let terms ← (List.range k).mapM fun l => do
    return (← a[i * k + l]?) * (← b[l * n + j]?)
  return Single.sum terms

/-- The array `c` with its first elements replaced by the product of the matrices `a` and `b`,
which has `m` rows of `n` elements. -/
def sgemm (m n k : Nat) (a b c : Array Single) : Option (Array Single) := do
  if c.size < m * n then none
  let entries ← (List.range (m * n)).mapM fun p => entry? k n a b (p / n) (p % n)
  return entries.toArray ++ c.extract (m * n) c.size

end Offload.Linear
