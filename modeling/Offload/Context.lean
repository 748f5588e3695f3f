import Offload.Device.Basic

/-!
# Contexts

A context is a device with the programs that were compiled for it. Everyone who runs kernels on
the device goes through one context, so that a kernel is compiled once.

* `Context.compile` — the program of a kernel, compiled on first use.
* `Context.getOrCompile` — the same with a compiler of the caller's choice, which may itself
  use the context. If it put the program there that it was asked for, that program is the one
  that counts.

A failed compilation is not remembered, so the next use tries again.
-/

namespace Offload

/-- A kernel that is ready to run. -/
structure Program where
  /-- how many programs were made before it -/
  serial : Nat
  /-- the kernel that it came from -/
  kernel : Kernel

/-- What a program was compiled for. -/
structure ProgramKey where
  /-- the kernel -/
  kernel : KernelId
  /-- the target -/
  target : Target
deriving DecidableEq

/-- A record of one use of the compiler. -/
structure CompilerCall where
  /-- what was to be compiled -/
  key : ProgramKey
  /-- whether there was a program in the end -/
  succeeded : Bool
deriving DecidableEq

/-- A device with its compiled programs. -/
structure Context where
  /-- the device -/
  device : Device
  /-- the programs, each under what it was compiled for -/
  programs : List (ProgramKey × Program)
  /-- every use of the compiler -/
  calls : Array CompilerCall
  /-- how many programs were made so far -/
  issued : Nat

/-- Why a kernel cannot be compiled for a target. Only the host can be compiled for. -/
def Kernel.compilable (k : Kernel) (t : Target) : Except DeviceError Unit :=
  if t ≠ .cpu then
    .error (.compilation k.name ("CPU compiler cannot target " ++ t.name))
  else
    (k.space.validate k.params).mapError fun e => .compilation k.name e.message

namespace Context

/-- A context without programs. -/
def ofDevice (d : Device) : Context := ⟨d, [], #[], 0⟩

/-- The program under a key. -/
def program? (c : Context) (key : ProgramKey) : Option Program :=
  (c.programs.find? (·.1 == key)).map (·.2)

/-- Put a program under a key that has none. -/
def insert (c : Context) (key : ProgramKey) (p : Program) : Context :=
  { c with programs := (key, p) :: c.programs }

/-- Forget all programs. -/
def clear (c : Context) : Context :=
  { c with programs := [] }

/-- The number of programs, as a record. -/
def description (c : Context) : String :=
  "KernelCache \x7b len: " ++ Decimal.text c.programs.length ++ " \x7d"

/-- A step on the device. -/
def onDevice {α : Type} (m : Step DeviceError Device α) : Step DeviceError Context α :=
  m.on Context.device fun d c => { c with device := d }

/-- Make a new program from a kernel, without a record. -/
def generate (k : Kernel) (t : Target) : Step DeviceError Context Program := fun c =>
  match k.compilable t with
  | .ok () => (.ok ⟨c.issued, k⟩, { c with issued := c.issued + 1 })
  | .error e => (.error e, c)

/-- Make a new program from a kernel. -/
def invoke (k : Kernel) (t : Target) : Step DeviceError Context Program := fun c =>
  let (r, c) := generate k t c
  (r, { c with calls := c.calls.push ⟨⟨k.id, t⟩, r.isOk⟩ })

/-- The program under a key; where there is none yet, the one that `make` comes up with. -/
def getOrCompile (key : ProgramKey) (make : Step DeviceError Context Program) :
    Step DeviceError Context Program := do
  match (← get).program? key with
  | some p => return p
  | none =>
    let p ← make
    match (← get).program? key with
    | some first => return first
    | none =>
      modify (·.insert key p)
      return p

/-- The program of a kernel for the device. -/
def compile (k : Kernel) : Step DeviceError Context Program := do
  let t := (← get).device.target
  getOrCompile ⟨k.id, t⟩ (invoke k t)

/-- A program that was inserted is found under its key. -/
@[simp] theorem program?_insert_self (c : Context) (key : ProgramKey) (p : Program) :
    (c.insert key p).program? key = some p := by
  simp [program?, insert]

/-- An insertion is not seen under any other key. -/
theorem program?_insert_ne (c : Context) {key key' : ProgramKey} (p : Program)
    (h : key' ≠ key) : (c.insert key p).program? key' = c.program? key' := by
  have hne : (key == key') = false := by simpa using fun he => h he.symm
  simp [program?, insert, hne]

end Context

end Offload
