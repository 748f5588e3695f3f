import Offload.Device.Basic

/-!
# The environment

Variables that a program is started with. The environment is a list of lines, each a name, an
equals sign and a value; a variable is looked up by the start of its line.

* `Environment.get?` — the value of a variable.
* `Device.ofEnvironment` — the host as a device, with the memory limit that the environment
  asks for.
-/

namespace Offload

/-- The variables with their values. -/
abbrev Environment : Type := List (String × String)

namespace Environment

/-- The value of a variable: what follows its name and an equals sign at the start of a line. A
name may itself contain an equals sign; an empty name, or one with a zero character, belongs to
no variable. -/
def get? (env : Environment) (name : String) : Option String :=
  let key := name.toList
  if key.isEmpty || key.contains '\x00' then none
  else
    (env.findSome? fun (n, v) => (key ++ ['=']).isPrefixOf? (n.toList ++ '=' :: v.toList)).map
      String.ofList

/-- The variable that limits the memory of the host as a device. -/
def memoryLimitName : String := "TESSERA_CPU_MEMORY_LIMIT"

/-- The memory limit, if there is one and it is a number. -/
def memoryLimit? (env : Environment) : Option Nat :=
  (env.get? memoryLimitName).bind Decimal.readSize?

end Environment

/-- The host as a device, with the memory limit that the environment asks for. -/
def Device.ofEnvironment (env : Environment) : Device :=
  .cpu env.memoryLimit? Pool.defaultKeep

end Offload
