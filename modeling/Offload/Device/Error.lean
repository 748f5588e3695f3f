import Offload.Host.Buffer

/-!
# Errors of devices
-/

namespace Offload

/-- Why a device, its memory, its compiler or a kernel refuses. -/
inductive DeviceError where
  /-- a copy between places of different sizes in bytes -/
  | sizeMismatch (expected actual : Nat)
  /-- an argument or a view of another element type than the declared one -/
  | typeMismatch (expected actual : ElementType)
  /-- no device memory is left, even after the pool gave back what it kept -/
  | outOfMemory (requested available : Nat)
  /-- a copy between host and device failed -/
  | transfer (reason : String)
  /-- a text that names no target -/
  | invalidDevice (device : String)
  /-- a target that nothing here can drive -/
  | unsupportedDevice (device : String)
  /-- device memory that was released or never allocated -/
  | notAllocated
  /-- a host buffer without a slot -/
  | unboundBuffer (buffer : HostId)
  /-- a buffer that cannot take the place of another -/
  | incompatibleReference (reason : String)
  /-- a kernel that cannot be turned into a program -/
  | compilation (kernel reason : String)
  /-- a launch that was rejected, or whose kernel body failed -/
  | launch (kernel reason : String)
deriving DecidableEq

/-- A word for the kind of error. -/
def DeviceError.kind : DeviceError → String
  | sizeMismatch _ _ => "SizeMismatch"
  | typeMismatch _ _ => "TypeMismatch"
  | outOfMemory _ _ => "OutOfMemory"
  | transfer _ => "Transfer"
  | invalidDevice _ => "InvalidDevice"
  | unsupportedDevice _ => "UnsupportedDevice"
  | notAllocated => "NotAllocated"
  | unboundBuffer _ => "UnboundBuffer"
  | incompatibleReference _ => "IncompatibleReference"
  | compilation _ _ => "Compilation"
  | launch _ _ => "Launch"

/-- What is said about the error. -/
def DeviceError.message : DeviceError → String
  | sizeMismatch expected actual =>
    "size mismatch: expected " ++ Decimal.text expected ++ " bytes, got " ++ Decimal.text actual
  | typeMismatch expected actual =>
    "type mismatch: expected " ++ expected.name ++ ", got " ++ actual.name
  | outOfMemory requested available =>
    "out of device memory: requested " ++ Decimal.text requested ++ " bytes, " ++
      Decimal.text available ++ " available"
  | transfer reason => "transfer failed: " ++ reason
  | invalidDevice device => "invalid device: " ++ device
  | unsupportedDevice device => "unsupported device: " ++ device
  | notAllocated => "buffer not allocated"
  | unboundBuffer buffer => "host buffer " ++ buffer.text ++ " is not bound"
  | incompatibleReference reason => "incompatible reference: " ++ reason
  | compilation kernel reason => "failed to compile kernel '" ++ kernel ++ "': " ++ reason
  | launch kernel reason => "failed to launch kernel '" ++ kernel ++ "': " ++ reason

end Offload
