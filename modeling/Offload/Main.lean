import Offload.Bench.CommandLine

/-!
# The benchmark program

Hands arguments, environment and clock to the command line of the benchmark.
-/

namespace Offload

/-- The environment variables that the program may look at. -/
def readEnvironment (names : List String) : IO Environment :=
  names.filterMapM fun name => return (← IO.getEnv name).map (name, ·)

/-- The names of all settings as environment variables. -/
def settingNames : List String :=
  Environment.memoryLimitName ::
    ["streamin", "streamout", "warmup", "device", "backend", "iterations", "maxulp", "m", "n"].map
      fun key => Properties.variableName ("benchmark." ++ key)

end Offload

/-- Run the program. -/
def main (args : List String) : IO UInt32 := do
  let env ← Offload.readEnvironment Offload.settingNames
  let seed ← IO.rand 0 (Nat.pow 2 32)
  let (code, text) ← Offload.Bench.CommandLine.run IO.monoNanosNow seed env args
  IO.print text
  return code
