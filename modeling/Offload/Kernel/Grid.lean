/-!
# Grids of work items

A kernel runs once for every point of a grid of up to three dimensions. The points are
numbered, the first coordinate running fastest.

`Grid.linear_item` and `Grid.item_linear` say that numbers and points determine each other.
-/

namespace Offload

/-- The sizes of a grid. -/
structure Grid where
  /-- the size along the first coordinate -/
  x : Nat
  /-- the size along the second coordinate -/
  y : Nat
  /-- the size along the third coordinate -/
  z : Nat
deriving DecidableEq, Inhabited

/-- A point of a grid. -/
structure WorkItem where
  /-- the first coordinate -/
  x : Nat
  /-- the second coordinate -/
  y : Nat
  /-- the third coordinate -/
  z : Nat
  /-- the grid that it belongs to -/
  grid : Grid
deriving DecidableEq

namespace WorkItem

/-- The number of a point. -/
def linear (i : WorkItem) : Nat :=
  i.x + i.grid.x * (i.y + i.grid.y * i.z)

/-- The coordinates in order. -/
def coordinates (i : WorkItem) : List Nat := [i.x, i.y, i.z]

/-- The coordinate of a dimension, of which there are three. -/
def coordinate? (i : WorkItem) (dim : Nat) : Option Nat := i.coordinates[dim]?

/-- Whether the point lies in its grid. -/
def InGrid (i : WorkItem) : Prop := i.x < i.grid.x ∧ i.y < i.grid.y ∧ i.z < i.grid.z

end WorkItem

namespace Grid

/-- A grid of a single point. -/
def point : Grid := ⟨1, 1, 1⟩

/-- The sizes in order. -/
def sizes (g : Grid) : List Nat := [g.x, g.y, g.z]

/-- The grid of up to three sizes; the sizes left out are one. -/
def ofSizes (sizes : List Nat) : Grid :=
  ⟨sizes.getD 0 1, sizes.getD 1 1, sizes.getD 2 1⟩

/-- The number of points. -/
def count (g : Grid) : Nat := g.x * g.y * g.z

/-- The point with a number. -/
def item (g : Grid) (n : Nat) : WorkItem where
  x := n % g.x
  y := n / g.x % g.y
  z := n / g.x / g.y
  grid := g

/-- A number leads to the point that has it. -/
theorem linear_item (g : Grid) (n : Nat) : (g.item n).linear = n := by
  simp only [WorkItem.linear, item, Nat.mod_add_div]

/-- The points with numbers below the count lie in the grid. -/
theorem inGrid_item (g : Grid) {n : Nat} (h : n < g.count) : (g.item n).InGrid := by
  have hx : 0 < g.x := by
    rcases Nat.eq_zero_or_pos g.x with h0 | h0
    · simp [count, h0] at h
    · exact h0
  have hy : 0 < g.y := by
    rcases Nat.eq_zero_or_pos g.y with h0 | h0
    · simp [count, h0] at h
    · exact h0
  refine ⟨Nat.mod_lt _ hx, Nat.mod_lt _ hy, ?_⟩
  show n / g.x / g.y < g.z
  rw [Nat.div_div_eq_div_mul]
  exact Nat.div_lt_of_lt_mul h

/-- A point of the grid is the one that its number leads to. -/
theorem item_linear {i : WorkItem} (h : i.InGrid) : i.grid.item i.linear = i := by
  obtain ⟨hx, hy, _⟩ := h
  have h1 : i.linear % i.grid.x = i.x := by
    rw [WorkItem.linear, Nat.add_mul_mod_self_left, Nat.mod_eq_of_lt hx]
  have h2 : i.linear / i.grid.x = i.y + i.grid.y * i.z := by
    rw [WorkItem.linear, Nat.add_mul_div_left _ _ (by omega), Nat.div_eq_of_lt hx, Nat.zero_add]
  have h3 : (i.y + i.grid.y * i.z) % i.grid.y = i.y := by
    rw [Nat.add_mul_mod_self_left, Nat.mod_eq_of_lt hy]
  have h4 : (i.y + i.grid.y * i.z) / i.grid.y = i.z := by
    rw [Nat.add_mul_div_left _ _ (by omega), Nat.div_eq_of_lt hy, Nat.zero_add]
  simp only [item, h1, h2, h3, h4]

end Grid

/-! ### Launch geometry -/

/-- The grid of a launch and the groups that its points are divided into. -/
structure Geometry where
  /-- the grid -/
  global : Grid
  /-- the grid of one group -/
  group : Grid
deriving DecidableEq

namespace Geometry

/-- The number of groups along a dimension; a group that is only partly filled counts. -/
def groupsAlong (size group : Nat) : Nat :=
  (size + (max group 1 - 1)) / max group 1

/-- The number of groups along each dimension. -/
def groups (g : Geometry) : Grid where
  x := groupsAlong g.global.x g.group.x
  y := groupsAlong g.global.y g.group.y
  z := groupsAlong g.global.z g.group.z

end Geometry

end Offload
