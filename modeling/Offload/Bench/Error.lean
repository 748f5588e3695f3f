import Offload.Graph.Error

/-!
# Errors of benchmarks
-/

namespace Offload

/-- Why a benchmark refuses or fails. -/
inductive BenchError where
  /-- the value of a property is no value of its type -/
  | invalidProperty (key value : String)
  /-- a graph or a device failed -/
  | runtime (source : GraphError)
  /-- there is nothing to run yet -/
  | notSetUp (benchmark : String)
deriving DecidableEq

/-- A word for the kind of error. -/
def BenchError.kind : BenchError → String
  | invalidProperty _ _ => "InvalidProperty"
  | runtime _ => "Runtime"
  | notSetUp _ => "NotSetUp"

/-- What is said about the error. -/
def BenchError.message : BenchError → String
  | invalidProperty key value =>
    "invalid value '" ++ value ++ "' for property '" ++ key ++ "'"
  | runtime source => source.message
  | notSetUp benchmark => "benchmark '" ++ benchmark ++ "' has not been set up"

end Offload
