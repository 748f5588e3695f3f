import Offload.Kernel.Basic

/-!
# Kernel scripts

A small language for kernel bodies: a script is a list of statements, which a work item carries
out one after the other.

* `Expr` — computes an element from constants, coordinates, arguments and stored elements.
* `Statement` — looks at the arguments and reports what it sees, stores the value of an
  expression, or ends the body.
* `Script.body` — the body that a script stands for.
-/

namespace Offload

/-- A number that a work item has. -/
inductive Coordinate where
  /-- the first coordinate -/
  | x
  /-- the second coordinate -/
  | y
  /-- the third coordinate -/
  | z
  /-- the number of the work item -/
  | linear
deriving DecidableEq

namespace Coordinate

/-- The coordinate of a name. -/
def ofName? : String → Option Coordinate
  | "x" => some x
  | "y" => some y
  | "z" => some z
  | "lin" => some linear
  | _ => none

/-- The number that a work item has. -/
def value (i : WorkItem) : Coordinate → Nat
  | x => i.x
  | y => i.y
  | z => i.z
  | linear => i.linear

end Coordinate

/-- A place in a buffer. -/
inductive Place where
  /-- where a coordinate points -/
  | coordinate (c : Coordinate)
  /-- the same place for all work items -/
  | fixed (n : Nat)
deriving DecidableEq

/-- The place that a work item means. -/
def Place.value (i : WorkItem) : Place → Nat
  | coordinate c => c.value i
  | fixed n => n

/-- An expression whose values are elements of type `t`. -/
inductive Expr (t : ElementType) where
  /-- the same element for all work items -/
  | const (v : t.Value)
  /-- the element for a coordinate -/
  | coordinate (c : Coordinate)
  /-- an element of the buffer at an index -/
  | load (index : Nat) (place : Place)
  /-- the scalar at an index -/
  | arg (index : Nat)
  /-- a sum -/
  | add (a b : Expr t)
  /-- a product -/
  | mul (a b : Expr t)

/-- Compute an expression, left operands first, and go on with its value. -/
def Expr.eval {t : ElementType} (i : WorkItem) : Expr t → (t.Value → Body) → Body
  | const v, next => next v
  | coordinate c, next => next (t.ofCount (c.value i))
  | load index place, next => .view index t (.orFail fun v => .element v (place.value i) next)
  | arg index, next => .scalar index t (.orFail next)
  | add a b, next => a.eval i fun v => b.eval i fun w => next (t.add v w)
  | mul a b, next => a.eval i fun v => b.eval i fun w => next (t.mul v w)

/-- One statement of a script. -/
inductive Statement where
  /-- report the number of arguments -/
  | count
  /-- report the length of a buffer -/
  | len (index : Nat)
  /-- report the work item -/
  | item
  /-- report a scalar -/
  | scalar (index : Nat) (t : ElementType)
  /-- report an element of a buffer -/
  | read (index : Nat) (t : ElementType) (place : Place)
  /-- report all elements of a buffer -/
  | view (index : Nat) (t : ElementType)
  /-- store an element -/
  | write (index : Nat) (t : ElementType) (place : Place) (value : Expr t)
  /-- end with an error -/
  | fail (e : DeviceError)
  /-- crash -/
  | crash (text : Option String)

/-- What a statement does before the rest of the script. An error of an access ends the script. -/
def Statement.body (i : WorkItem) (next : Body) : Statement → Body
  | count => .count fun n => .report (.size n) next
  | len index => .len index (.orFail fun n => .report (.size n) next)
  | item => .report (.item i) next
  | scalar index t => .scalar index t (.orFail fun v => .report (.value ⟨t, v⟩) next)
  | read index t place =>
    .view index t (.orFail fun v =>
      .element v (place.value i) fun x => .report (.value ⟨t, x⟩) next)
  | view index t => .view index t (.orFail fun v => .report (.elements t v.toList) next)
  | write index t place value =>
    value.eval i fun v => .store index t (place.value i) v (.orFail fun _ => next)
  | fail e => .fail e
  | crash text => .crash text

/-- A list of statements. -/
abbrev Script : Type := List Statement

/-- The body that a script stands for. -/
def Script.body (s : Script) (i : WorkItem) : Body :=
  List.foldr (fun statement next => statement.body i next) Body.done s

end Offload
