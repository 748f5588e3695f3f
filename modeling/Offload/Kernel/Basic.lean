import Offload.Kernel.Body

/-!
# Kernels

A kernel is a list of parameters, an iteration space and a body that runs once for every point
of the grid.
-/

namespace Offload

/-- The identity of a kernel. -/
structure KernelId where
  /-- how many kernels were made before it -/
  index : Nat
deriving DecidableEq, Inhabited

/-- A unit of work for a device. -/
structure Kernel where
  /-- the identity -/
  id : KernelId
  /-- the name, which several kernels may share -/
  name : String
  /-- what it takes -/
  params : List Param
  /-- how large its grid is -/
  space : Space
  /-- what it does for a work item -/
  body : WorkItem → Body

namespace Kernel

/-- Check an argument against the parameter at its index. -/
def checkArg (name : String) (index : Nat) : Param → LaunchArg → Except DeviceError Unit
  | .scalar t, .scalar v =>
    if t = v.type then .ok () else .error (.typeMismatch (.scalar t) (.scalar v.type))
  | .buffer t _, .buffer a =>
    if t = a.type then .ok () else .error (.typeMismatch t a.type)
  | p, _ =>
    .error (.launch name
      ("argument " ++ Decimal.text index ++ " does not match parameter " ++ p.text))

/-- Check arguments from an index on, up to the first that does not fit. -/
def checkFrom (name : String) (index : Nat) :
    List Param → List LaunchArg → Except DeviceError Unit
  | p :: ps, a :: as => do
    checkArg name index p a
    checkFrom name (index + 1) ps as
  | _, _ => .ok ()

/-- Check arguments against the parameters: their number, then each in order. -/
def checkArgs (k : Kernel) (args : List LaunchArg) : Except DeviceError Unit :=
  if args.length ≠ k.params.length then
    .error (.launch k.name
      ("expected " ++ Decimal.text k.params.length ++ " arguments, got " ++
        Decimal.text args.length))
  else checkFrom k.name 0 k.params args

/-- The grid for given arguments. -/
def grid (k : Kernel) (args : List LaunchArg) : Except DeviceError Grid :=
  (k.space.resolve args).mapError fun e => .launch k.name e.message

end Kernel

end Offload
