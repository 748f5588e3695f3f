import Offload.Device.Error
import Offload.Kernel.Param

/-!
# Errors of graphs

What goes wrong when a graph is built or run. An error of a node names the node together with
its graph.
-/

namespace Offload

/-- Why a task does not fit its kernel. -/
inductive TaskError where
  /-- another number of arguments than the kernel takes -/
  | argumentCount (kernel : String) (expected actual : Nat)
  /-- a scalar of another type -/
  | scalarType (index : Nat) (expected actual : ScalarType)
  /-- a buffer of another element type -/
  | bufferType (index : Nat) (expected actual : ElementType)
  /-- a scalar in place of a buffer or the other way round -/
  | mismatch (index : Nat) (param : Param)
deriving DecidableEq

/-- What is said about the error. -/
def TaskError.message : TaskError → String
  | argumentCount kernel expected actual =>
    "kernel '" ++ kernel ++ "' takes " ++ Decimal.text expected ++ " arguments, got " ++
      Decimal.text actual
  | scalarType index expected actual =>
    "argument " ++ Decimal.text index ++ ": expected " ++ expected.name ++ " scalar, got " ++
      actual.name
  | bufferType index expected actual =>
    "argument " ++ Decimal.text index ++ ": expected " ++ expected.name ++ " buffer, got " ++
      actual.name
  | mismatch index param =>
    "argument " ++ Decimal.text index ++ " does not match parameter " ++ param.text

/-- Why a graph refuses or fails. -/
inductive GraphError where
  /-- a node reads a buffer that no earlier node made available -/
  | unboundBuffer (node : String) (buffer : HostId)
  /-- a task does not fit its kernel -/
  | invalidTask (node : String) (reason : TaskError)
  /-- a buffer cannot take the place of another -/
  | incompatibleReference (graph : String) (source : DeviceError)
  /-- a node finds no device memory -/
  | deviceOutOfMemory (node : String) (source : DeviceError)
  /-- the kernel of a node cannot be compiled -/
  | compilation (node : String) (source : DeviceError)
  /-- a task failed, or waiting for the device -/
  | launchFailure (node : String) (source : DeviceError)
  /-- a copy failed -/
  | transferFailure (node : String) (source : DeviceError)
  /-- the graph was disposed of -/
  | disposed (graph : String)
  /-- nothing makes contexts for a device -/
  | unsupportedDevice (device : String)
  /-- a device refused outside a node -/
  | deviceFailure (source : DeviceError)
deriving DecidableEq

namespace GraphError

/-- A word for the kind of error. -/
def kind : GraphError → String
  | unboundBuffer _ _ => "UnboundBuffer"
  | invalidTask _ _ => "InvalidTask"
  | incompatibleReference _ _ => "IncompatibleReference"
  | deviceOutOfMemory _ _ => "DeviceOutOfMemory"
  | compilation _ _ => "Compilation"
  | launchFailure _ _ => "LaunchFailure"
  | transferFailure _ _ => "TransferFailure"
  | disposed _ => "GraphDisposed"
  | unsupportedDevice _ => "UnsupportedDevice"
  | deviceFailure _ => "Device"

/-- What is said about the error. -/
def message : GraphError → String
  | unboundBuffer node buffer =>
    node ++ ": buffer " ++ buffer.text ++ " is not bound in this graph"
  | invalidTask node reason => node ++ ": " ++ reason.message
  | incompatibleReference graph source => graph ++ ": " ++ source.message
  | deviceOutOfMemory node source => node ++ ": out of device memory: " ++ source.message
  | compilation node source => node ++ ": compilation failed: " ++ source.message
  | launchFailure node source => node ++ ": launch failed: " ++ source.message
  | transferFailure node source => node ++ ": transfer failed: " ++ source.message
  | disposed graph => "graph '" ++ graph ++ "' has been disposed"
  | unsupportedDevice device => "unsupported device: " ++ device
  | deviceFailure source => "device error: " ++ source.message

/-- The error of the device behind the error. -/
def source? : GraphError → Option DeviceError
  | incompatibleReference _ e | deviceOutOfMemory _ e | compilation _ e | launchFailure _ e
  | transferFailure _ e | deviceFailure e => some e
  | unboundBuffer _ _ | invalidTask _ _ | disposed _ | unsupportedDevice _ => none

end GraphError

end Offload
