import Offload.Kernel.Space

/-!
# Kernel bodies

What a kernel does for one work item, as a tree of the accesses that it may make. A body has no
other way to reach memory: it learns scalars, lengths and elements from the answers to its
accesses, and changes memory only by storing an element through a buffer that it may write.

An access may be refused. The answer is an error then, and it is for the body to say what comes
next: it may report the error, which is what `Body.orFail` does, or make another access as if
nothing had happened.

A body ends in one of three ways. It is done, it reports an error, or it crashes, that is, it
breaks a rule of the language it is written in, for instance by an index out of range.
-/

namespace Offload

/-- The elements of a buffer as a kernel sees them. -/
structure View (t : ElementType) where
  /-- the memory behind the buffer -/
  cells : Bytes
  /-- the number of elements -/
  len : Nat

namespace View

variable {t : ElementType}

/-- The element at an index that is known to be in range. -/
def nth (v : View t) (i : Nat) : t.Value := t.valueAt v.cells (i * t.bytes)

/-- The element at an index. -/
def get? (v : View t) (i : Nat) : Option t.Value :=
  if i < v.len then some (v.nth i) else none

/-- The `n` elements from `start` on, if there are so many. -/
def slice? (v : View t) (start n : Nat) : Option (List t.Value) :=
  if start + n ≤ v.len then some ((List.range n).map fun i => v.nth (start + i)) else none

/-- All elements. -/
def toList (v : View t) : List t.Value := (List.range v.len).map v.nth

end View

/-- Something that a body reports to an observer. -/
inductive Note where
  /-- a number of things -/
  | size (n : Nat)
  /-- the work item -/
  | item (i : WorkItem)
  /-- a value -/
  | value (e : Element)
  /-- all elements of a buffer -/
  | elements (t : ElementType) (vs : List t.Value)

/-- What a kernel does for one work item. -/
inductive Body where
  /-- nothing more -/
  | done
  /-- report an error -/
  | fail (e : DeviceError)
  /-- crash, saying why unless there are no words for it -/
  | crash (text : Option String)
  /-- ask for the number of arguments -/
  | count (next : Nat → Body)
  /-- ask for the number of elements of an argument -/
  | len (index : Nat) (next : Except DeviceError Nat → Body)
  /-- ask for the value of an argument -/
  | scalar (index : Nat) (t : ElementType) (next : Except DeviceError t.Value → Body)
  /-- ask for the elements of an argument -/
  | view (index : Nat) (t : ElementType) (next : Except DeviceError (View t) → Body)
  /-- ask for the elements of an argument that is to be written -/
  | writable (index : Nat) (t : ElementType) (next : Except DeviceError (View t) → Body)
  /-- store an element in an argument -/
  | store (index : Nat) (t : ElementType) (place : Nat) (v : t.Value)
      (next : Except DeviceError Unit → Body)
  /-- tell an observer something -/
  | report (n : Note) (next : Body)

namespace Body

/-- What is said about an index out of range. -/
def indexText (len i : Nat) : String :=
  "index out of bounds: the len is " ++ Decimal.text len ++ " but the index is " ++ Decimal.text i

/-- What is said about a stretch that reaches beyond the end of memory. -/
def rangeText (size stop : Nat) : String :=
  "range end index " ++ Decimal.text stop ++ " out of range for slice of length " ++
    Decimal.text size

/-- Go on with an answer, or report the error that stands in its place. -/
def orFail {α : Type} (next : α → Body) : Except DeviceError α → Body
  | .ok a => next a
  | .error e => fail e

@[simp] theorem orFail_ok {α : Type} (next : α → Body) (a : α) : orFail next (.ok a) = next a := rfl

@[simp] theorem orFail_error {α : Type} (next : α → Body) (e : DeviceError) :
    orFail next (.error e) = fail e := rfl

/-- Take the element at an index, or crash. -/
def element {t : ElementType} (v : View t) (i : Nat) (next : t.Value → Body) : Body :=
  match v.get? i with
  | some x => next x
  | none => crash (some (indexText v.len i))

end Body

end Offload
