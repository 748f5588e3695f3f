import Offload.Context
import Offload.Environment
import Offload.Graph.Error

/-!
# Registries

A device registry has at most one device for each target, and makes it when it is first asked
for. A context registry has at most one context for each target, made by the factory that is
responsible for the kind of the target. What has been made once is handed out from then on.

* `DeviceRegistry.get`, `ContextRegistry.get` — the device or the context of a target.
* `ContextRegistry.register` — makes a factory responsible for a kind of target, whatever the
  letter case in which the kind is given.

Devices and contexts are known by the order in which they were made, so that it can be told
whether two answers are about the same one.
-/

namespace Offload

/-- The identity of a device. -/
structure DeviceRef where
  /-- how many devices were made before it -/
  index : Nat
deriving DecidableEq, Inhabited

/-- The identity of a context. -/
structure ContextRef where
  /-- how many contexts were made before it -/
  index : Nat
deriving DecidableEq, Inhabited

/-! ### Devices -/

/-- The devices, one for each target. -/
structure DeviceRegistry where
  /-- what new devices are configured from -/
  environment : Environment
  /-- every device ever made -/
  made : Array Device
  /-- the device of each target that has one -/
  shelf : List (Target × DeviceRef)

namespace DeviceRegistry

/-- A registry without devices. -/
def empty (env : Environment) : DeviceRegistry := ⟨env, #[], []⟩

/-- The device of an identity. -/
def device (r : DeviceRegistry) (ref : DeviceRef) : Device :=
  r.made.getD ref.index (.ofEnvironment r.environment)

/-- Give a new device an identity. -/
def adopt (r : DeviceRegistry) (d : Device) : DeviceRef × DeviceRegistry :=
  (⟨r.made.size⟩, { r with made := r.made.push d })

/-- Change a device. -/
def set (r : DeviceRegistry) (ref : DeviceRef) (d : Device) : DeviceRegistry :=
  { r with made := r.made.setIfInBounds ref.index d }

/-- The device of a target, if it was made already. -/
def lookup? (r : DeviceRegistry) (t : Target) : Option DeviceRef :=
  (r.shelf.find? (·.1 == t)).map (·.2)

/-- Put a new device in the place of the one that its target had. -/
def insert (r : DeviceRegistry) (d : Device) : DeviceRef × DeviceRegistry :=
  let (ref, r) := r.adopt d
  (ref, { r with shelf := (d.target, ref) :: r.shelf.filter (·.1 != d.target) })

/-- The device of a target, made on first use. Only the host can be made a device. -/
def get (t : Target) : Step DeviceError DeviceRegistry DeviceRef := fun r =>
  match r.lookup? t with
  | some ref => (.ok ref, r)
  | none =>
    if t = .cpu then
      let (ref, r) := r.insert (.ofEnvironment r.environment)
      (.ok ref, r)
    else (.error (.unsupportedDevice t.name), r)

/-- The targets that have a device, as a record. -/
def description (r : DeviceRegistry) : String :=
  "DeviceRegistry \x7b devices: [" ++
    String.intercalate ", " (r.shelf.map fun entry => entry.1.description) ++ "] \x7d"

end DeviceRegistry

/-! ### Contexts -/

/-- Where a factory takes the device of a new context from. -/
inductive Supply where
  /-- from the device registry -/
  | shared
  /-- nowhere: it makes a device of its own -/
  | own
  /-- it does not make a context at all -/
  | refused (e : GraphError)

/-- Something that makes contexts. -/
structure Factory where
  /-- the name under which its calls are recorded -/
  label : Nat
  /-- what it does for a target -/
  supply : Target → Supply

/-- The factory for the host, which takes devices from the device registry. -/
def Factory.standard : Factory := ⟨0, fun _ => .shared⟩

/-- The contexts, one for each target. -/
structure ContextRegistry where
  /-- the device registry -/
  devices : DeviceRegistry
  /-- the device of every context ever made -/
  made : Array DeviceRef
  /-- the context of each target that has one -/
  shelf : List (Target × ContextRef)
  /-- the factory of each kind -/
  factories : List (String × Factory)
  /-- every use of a factory: its label and the target -/
  calls : Array (Nat × Target)

namespace ContextRegistry

/-- Make a factory responsible for a kind of target. -/
def register (r : ContextRegistry) (kind : String) (f : Factory) : ContextRegistry :=
  let kind := String.ofList (Text.upper kind.toList)
  { r with factories := (kind, f) :: r.factories.filter (·.1 != kind) }

/-- A registry without contexts, on devices that may be there already. -/
def ofDevices (devices : DeviceRegistry) : ContextRegistry :=
  register ⟨devices, #[], [], [], #[]⟩ "CPU" .standard

/-- The context of a target, if it was made already. -/
def lookup? (r : ContextRegistry) (t : Target) : Option ContextRef :=
  (r.shelf.find? (·.1 == t)).map (·.2)

/-- The factory that is responsible for a target. -/
def factory? (r : ContextRegistry) (t : Target) : Option Factory :=
  (r.factories.find? (·.1 == t.kind)).map (·.2)

/-- The device of a context. -/
def deviceOf (r : ContextRegistry) (ref : ContextRef) : DeviceRef :=
  r.made.getD ref.index default

/-- A step on the device registry. -/
def onDevices {α : Type} (m : Step DeviceError DeviceRegistry α) :
    Step GraphError ContextRegistry α :=
  (m.on devices fun d r => { r with devices := d }).mapError .deviceFailure

/-- Use a factory. The result is the device that the new context is for. -/
def produce (f : Factory) (t : Target) : Step GraphError ContextRegistry DeviceRef := do
  modify fun r => { r with calls := r.calls.push (f.label, t) }
  match f.supply t with
  | .shared => onDevices (DeviceRegistry.get t)
  | .own =>
    let r ← get
    let (ref, devices) := r.devices.adopt (.ofEnvironment r.devices.environment)
    set { r with devices }
    return ref
  | .refused e => throw e

/-- Put a new context on the shelf. -/
def shelve (t : Target) (d : DeviceRef) (r : ContextRegistry) : ContextRef × ContextRegistry :=
  let ref : ContextRef := ⟨r.made.size⟩
  (ref, { r with made := r.made.push d, shelf := (t, ref) :: r.shelf })

/-- The context of a target, made on first use. -/
def get (t : Target) : Step GraphError ContextRegistry ContextRef := do
  let r ← MonadState.get
  match r.lookup? t with
  | some ref => return ref
  | none =>
    match r.factory? t with
    | none => throw (.unsupportedDevice t.name)
    | some f =>
      let d ← produce f t
      modifyGet (shelve t d)

/-- The context of the target that a text names. -/
def getNamed (s : String) : Step GraphError ContextRegistry ContextRef := do
  let t ← (Step.lift (Target.parse s)).mapError .deviceFailure
  get t

end ContextRegistry

/-- The device of the target that a text names. -/
def DeviceRegistry.getNamed (s : String) : Step DeviceError DeviceRegistry DeviceRef := do
  let t ← Step.lift (Target.parse s)
  DeviceRegistry.get t

end Offload
