import Offload.Element.Scalar
import Offload.Memory.Allocation

/-!
# Parameters and arguments

What a kernel declares that it takes, and what it is given. A scalar is passed by value; a
buffer is passed as an allocation, and the declaration says how the kernel uses it.
-/

namespace Offload

/-- How a kernel uses a buffer. -/
inductive Access where
  /-- it only looks at the elements -/
  | read
  /-- it produces the elements -/
  | write
  /-- it changes elements that were there before -/
  | readWrite
deriving DecidableEq

namespace Access

/-- Whether the elements that were there before matter. -/
def reads : Access → Bool
  | read | readWrite => true
  | write => false

/-- Whether the elements may change. -/
def writes : Access → Bool
  | write | readWrite => true
  | read => false

/-- The name of the use. -/
def name : Access → String
  | read => "Read"
  | write => "Write"
  | readWrite => "ReadWrite"

end Access

/-- What a kernel declares that it takes. -/
inductive Param where
  /-- a single value -/
  | scalar (type : ScalarType)
  /-- elements in device memory -/
  | buffer (type : ElementType) (access : Access)
deriving DecidableEq

namespace Param

/-- Whether a buffer is declared. -/
def isBuffer : Param → Bool
  | scalar _ => false
  | buffer _ _ => true

/-- How a buffer is used. -/
def access? : Param → Option Access
  | scalar _ => none
  | buffer _ a => some a

/-- The declaration as text. -/
def text : Param → String
  | scalar t => t.name
  | buffer t a => t.name ++ "[" ++ a.name ++ "]"

end Param

/-- What a kernel is given. -/
inductive LaunchArg where
  /-- a single value -/
  | scalar (value : Scalar)
  /-- elements in device memory -/
  | buffer (allocation : Allocation)

end Offload
