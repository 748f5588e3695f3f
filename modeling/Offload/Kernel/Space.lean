import Offload.Kernel.Grid
import Offload.Kernel.Param

/-!
# Iteration spaces

A kernel says how large its grid is without knowing its arguments: along each dimension the
size is a constant, the length of a buffer, or the value of an integer.

* `Space.validate` — checks a space against the parameters of a kernel.
* `Space.resolve` — the grid for given arguments.
-/

namespace Offload

/-- The size along one dimension. -/
inductive Extent where
  /-- a constant -/
  | fixed (n : Nat)
  /-- the length of the buffer at an index -/
  | length (index : Nat)
  /-- the value of the scalar at an index -/
  | scalar (index : Nat)
deriving DecidableEq

/-- The extent as a record. -/
def Extent.description : Extent → String
  | fixed n => "Fixed(" ++ Decimal.text n ++ ")"
  | length i => "Length(" ++ Decimal.text i ++ ")"
  | scalar i => "Scalar(" ++ Decimal.text i ++ ")"

/-- The sizes along all dimensions. -/
structure Space where
  /-- the extents, that of the fastest coordinate first -/
  dims : List Extent
deriving DecidableEq

/-- Why a space does not go with a list of parameters. -/
inductive SpaceError where
  /-- a number of dimensions other than one, two or three -/
  | dimensionCount (count : Nat)
  /-- the length of something that is no buffer -/
  | nonBuffer (dim : Nat) (param : Param)
  /-- the value of something that is no integer -/
  | nonInteger (dim : Nat) (param : Param)
  /-- a parameter that does not exist -/
  | missing (dim index : Nat)

/-- What is said about the error. -/
def SpaceError.message : SpaceError → String
  | dimensionCount n => "iteration space must have 1 to 3 dimensions, got " ++ Decimal.text n
  | nonBuffer dim p =>
    "dimension " ++ Decimal.text dim ++ " takes its length from non-buffer " ++ p.text
  | nonInteger dim p =>
    "dimension " ++ Decimal.text dim ++ " takes its extent from non-integer " ++ p.text
  | missing dim index =>
    "dimension " ++ Decimal.text dim ++ " refers to missing argument " ++ Decimal.text index

/-- Why arguments do not determine a grid. -/
inductive ExtentError where
  /-- the argument at an index is no buffer -/
  | notBuffer (index : Nat)
  /-- the argument at an index is a negative number -/
  | negative (index : Nat)
  /-- the argument at an index is no integer, or too large for a signed one -/
  | notInteger (index : Nat)
  /-- more dimensions than a grid has -/
  | tooManyDimensions
deriving DecidableEq

/-- What is said about the error. -/
def ExtentError.message : ExtentError → String
  | notBuffer i => "argument " ++ Decimal.text i ++ " is not a buffer"
  | negative i => "argument " ++ Decimal.text i ++ " is a negative extent"
  | notInteger i => "argument " ++ Decimal.text i ++ " is not an integer scalar"
  | tooManyDimensions => "too many dimensions"

/-- The greatest number of dimensions. -/
def Space.maxDims : Nat := 3

/-- Check one extent against the parameters. -/
def Extent.validate (params : List Param) (dim : Nat) : Extent → Except SpaceError Unit
  | fixed _ => .ok ()
  | length i => match params[i]? with
    | some (.buffer _ _) => .ok ()
    | some p => .error (.nonBuffer dim p)
    | none => .error (.missing dim i)
  | scalar i => match params[i]? with
    | some (.scalar t) => if t.isInt then .ok () else .error (.nonInteger dim (.scalar t))
    | some p => .error (.nonInteger dim p)
    | none => .error (.missing dim i)

/-- The value of one extent. -/
def Extent.resolve (args : List LaunchArg) : Extent → Except ExtentError Nat
  | fixed n => .ok n
  | length i => match args[i]? with
    | some (.buffer a) => .ok a.len
    | _ => .error (.notBuffer i)
  | scalar i => match args[i]? with
    | some (.scalar v) => match v.asInt? with
      | some (.ofNat n) => .ok n
      | some (.negSucc _) => .error (.negative i)
      | none => .error (.notInteger i)
    | _ => .error (.notInteger i)

namespace Space

/-- The extents, as a record. -/
def description (s : Space) : String :=
  "[" ++ String.intercalate ", " (s.dims.map Extent.description) ++ "]"

/-- Check extents from dimension `dim` on, up to the first that does not fit. -/
def validateFrom (params : List Param) (dim : Nat) : List Extent → Except SpaceError Unit
  | [] => .ok ()
  | e :: r => do
    e.validate params dim
    validateFrom params (dim + 1) r

/-- Check a space against the parameters of a kernel. -/
def validate (s : Space) (params : List Param) : Except SpaceError Unit :=
  if s.dims.isEmpty ∨ maxDims < s.dims.length then .error (.dimensionCount s.dims.length)
  else validateFrom params 0 s.dims

/-- The grid for given arguments. The extents are looked at in order, and one that lies beyond
the last dimension only comes up once it has a value. -/
def resolve (s : Space) (args : List LaunchArg) : Except ExtentError Grid := do
  let sizes ← (s.dims.take (maxDims + 1)).mapM (·.resolve args)
  if maxDims < s.dims.length then throw .tooManyDimensions
  return .ofSizes sizes

end Space

end Offload
