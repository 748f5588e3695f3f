import Offload.Device.Error
import Offload.Text.Blank
import Offload.Text.Upper

/-!
# Targets

A target names a device that kernels can run on: a kind of device and, except for the host
itself, which one of that kind.

* `Target.name` — the canonical text, such as `CUDA:1`.
* `Target.parse` — reads a target. Blanks around it and letter case do not matter, some kinds
  have shorter names, and a missing ordinal stands for the first device of the kind.
-/

namespace Offload

/-- A device that kernels can run on. -/
inductive Target where
  /-- the host itself -/
  | cpu
  /-- a graphics processor -/
  | cuda (ordinal : Nat)
  /-- any accelerator behind the open interface -/
  | openCl (ordinal : Nat)
  /-- a programmable board -/
  | fpga (ordinal : Nat)
deriving DecidableEq, Inhabited

namespace Target

/-- The kind of device. -/
def kind : Target → String
  | cpu => "CPU"
  | cuda _ => "CUDA"
  | openCl _ => "OPENCL"
  | fpga _ => "FPGA"

/-- The kind and, except for the host, the ordinal. -/
def name : Target → String
  | cpu => "CPU"
  | cuda n => "CUDA:" ++ Decimal.text n
  | openCl n => "OPENCL:" ++ Decimal.text n
  | fpga n => "FPGA:" ++ Decimal.text n

/-- The target as a record. -/
def description : Target → String
  | cpu => "Cpu"
  | cuda n => "Cuda" ++ ordinal n
  | openCl n => "OpenCl" ++ ordinal n
  | fpga n => "Fpga" ++ ordinal n
where
  /-- the only field of a record -/
  ordinal (n : Nat) : String := " \x7b device_id: " ++ Decimal.text n ++ " \x7d"

/-- The place among the kinds, and the ordinal. -/
def key : Target → Nat × Nat
  | cpu => (0, 0)
  | cuda n => (1, n)
  | openCl n => (2, n)
  | fpga n => (3, n)

/-- Whether a target comes before another or is the same: first by kind, then by ordinal. -/
def le (a b : Target) : Bool :=
  a.key.1 < b.key.1 || (a.key.1 == b.key.1 && a.key.2 ≤ b.key.2)

/-! ### Reading -/

/-- The target of a kind in capitals; `ordinal` is zero where none was given. -/
def ofKind? (kind : List Char) (ordinal : Nat) : Option Target :=
  match String.ofList kind with
  | "CPU" => if ordinal = 0 then some cpu else none
  | "CUDA" | "GPU" | "PTX" => some (cuda ordinal)
  | "OPENCL" | "CL" => some (openCl ordinal)
  | "FPGA" => some (fpga ordinal)
  | _ => none

/-- Reads a target in capitals: a kind, or a kind, a colon and an ordinal. -/
def ofCapitals? (cs : List Char) : Option Target :=
  match cs.dropWhile (· != ':') with
  | [] => ofKind? cs 0
  | _ :: ordinal =>
    (Decimal.read? Decimal.sizeBound ordinal).bind (ofKind? (cs.takeWhile (· != ':')))

/-- Reads a target. -/
def parse (s : String) : Except DeviceError Target :=
  match ofCapitals? (Text.upper (Text.trim s.toList)) with
  | some t => .ok t
  | none => .error (.invalidDevice s)

end Target

end Offload
