import Offload.Context

/-!
# Slot tables

A slot ties a host buffer to room for it in device memory, which is allocated when it is first
needed. The slot remembers the version of the host buffer that device memory last agreed with;
device memory is stale when the host buffer has moved on since.

The buffer in a slot can be exchanged for another one. The slot keeps its number, so whoever
knows the number works with the new buffer from then on.

* `SlotTable.bind` — the slot of a buffer, made on first use.
* `Workspace.upload`, `Workspace.download` — copy the buffer in a slot to device memory and back.
* `Workspace.rebind` — exchange the buffer in a slot. Device memory is kept where the new buffer
  has the same size in bytes, and given up otherwise.
-/

namespace Offload

/-- The number of a slot. -/
structure SlotId where
  /-- how many slots were made before it -/
  index : Nat
deriving DecidableEq, Inhabited

/-- The number as text. -/
def SlotId.text (s : SlotId) : String :=
  "slot" ++ Decimal.text s.index

/-- A host buffer with its room in device memory. -/
structure Slot where
  /-- the buffer -/
  host : HostId
  /-- its room in device memory -/
  allocation : Option Allocation
  /-- the version of the buffer that device memory agrees with, if it agrees with any -/
  synced : Option Nat
deriving DecidableEq, Inhabited

namespace Slot

/-- A slot without device memory. -/
def fresh (host : HostId) : Slot := ⟨host, none, none⟩

/-- Whether there is device memory. -/
def isAllocated (s : Slot) : Bool := s.allocation.any Allocation.isAllocated

end Slot

/-- The slots of one user, found by number and by host buffer. -/
structure SlotTable where
  /-- the slots in the order of their numbers -/
  slots : Array Slot
  /-- the slot of every buffer that has one -/
  byHost : List (HostId × SlotId)
deriving Inhabited

namespace SlotTable

/-- No slots. -/
def empty : SlotTable := ⟨#[], []⟩

/-- The slot with a number. -/
def get (t : SlotTable) (s : SlotId) : Slot := t.slots.getD s.index default

/-- Change the slot with a number. -/
def set (t : SlotTable) (s : SlotId) (slot : Slot) : SlotTable :=
  { t with slots := t.slots.setIfInBounds s.index slot }

/-- The slot of a buffer. -/
def slotOf? (t : SlotTable) (h : HostId) : Option SlotId :=
  (t.byHost.find? (·.1 == h)).map (·.2)

/-- The slot of a buffer, made on first use. -/
def bind (t : SlotTable) (h : HostId) : SlotId × SlotTable :=
  match t.slotOf? h with
  | some s => (s, t)
  | none =>
    let s : SlotId := ⟨t.slots.size⟩
    (s, ⟨t.slots.push (.fresh h), (h, s) :: t.byHost⟩)

/-- The slots of several buffers, made on first use in order. -/
def bindAll (t : SlotTable) : List HostId → List SlotId × SlotTable
  | [] => ([], t)
  | h :: r =>
    let (s, t) := t.bind h
    let (ss, t) := t.bindAll r
    (s :: ss, t)

/-- Put another buffer into a slot in place of `old`. -/
def replace (t : SlotTable) (old new : HostId) (s : SlotId) (slot : Slot) : SlotTable :=
  { (t.set s slot) with byHost := (new, s) :: t.byHost.filter (·.1 != old) }

/-- What a kernel is given for a slot. -/
def launchArg (t : SlotTable) (s : SlotId) : Except DeviceError LaunchArg :=
  match (t.get s).allocation with
  | some a => .ok (.buffer a)
  | none => .error .notAllocated

end SlotTable

/-- Host memory and a device. -/
structure Machine where
  /-- host memory -/
  hosts : HostMemory
  /-- the device with its programs -/
  context : Context

/-- A machine with the slots of one user. -/
structure Workspace where
  /-- the machine -/
  machine : Machine
  /-- the slots -/
  table : SlotTable

namespace Workspace

/-- A step on the context. -/
def onContext {α : Type} (m : Step DeviceError Context α) : Step DeviceError Workspace α :=
  m.on (fun w => w.machine.context)
    fun c w => { w with machine := { w.machine with context := c } }

/-- A step on the device. -/
def onDevice {α : Type} (m : Step DeviceError Device α) : Step DeviceError Workspace α :=
  onContext (Context.onDevice m)

/-- The device. -/
def device (w : Workspace) : Device := w.machine.context.device

/-- The host buffer in a slot. -/
def host (w : Workspace) (s : SlotId) : HostBuffer :=
  w.machine.hosts.get (w.table.get s).host

/-- Change the slot with a number. -/
def setSlot (w : Workspace) (s : SlotId) (slot : Slot) : Workspace :=
  { w with table := w.table.set s slot }

/-- Whether device memory is missing or does not agree with the host buffer. -/
def isStale (w : Workspace) (s : SlotId) : Bool :=
  !(w.table.get s).isAllocated || (w.table.get s).synced != some (w.host s).version

/-- Make room in device memory for a slot that has none. The result says whether that was
necessary. -/
def ensureAllocated (s : SlotId) : Step DeviceError Workspace Bool := do
  let w ← get
  if (w.table.get s).isAllocated then return false
  let a ← onDevice (Device.allocate (w.host s).type (w.host s).len)
  modify (·.setSlot s ⟨(w.table.get s).host, some a, none⟩)
  return true

/-- Remember that device memory agrees with a version of the host buffer. -/
def markSynced (s : SlotId) (version : Nat) : Step DeviceError Workspace Unit :=
  modify fun w => w.setSlot s { w.table.get s with synced := some version }

/-- The room of a slot. -/
def allocation (s : SlotId) : Step DeviceError Workspace Allocation := do
  match ((← get).table.get s).allocation with
  | some a => return a
  | none => throw .notAllocated

/-- Copy the buffer in a slot to device memory. -/
def upload (s : SlotId) : Step DeviceError Workspace Unit := do
  let _ ← ensureAllocated s
  let a ← allocation s
  let h := (← get).host s
  onDevice (Device.upload a h.bytes)
  markSynced s h.version

/-- Put another buffer in place of the host buffer in a slot. -/
def setHost (w : Workspace) (s : SlotId) (h : HostBuffer) : Workspace :=
  { w with machine := { w.machine with hosts := w.machine.hosts.set (w.table.get s).host h } }

/-- Copy device memory to the buffer in a slot, which is opened for writing first. -/
def download (s : SlotId) : Step DeviceError Workspace Unit := do
  let a ← allocation s
  let h := ((← get).host s).touch
  modify (·.setHost s h)
  let bytes ← onDevice (Device.download a h.bytes.size)
  modify (·.setHost s (h.patch 0 bytes.toList))
  markSynced s h.version

/-- Give up an allocation, if there is one. -/
def drop (w : Workspace) (a : Option Allocation) : Workspace :=
  match a with
  | some a =>
    { w with machine.context.device := w.machine.context.device.release a }
  | none => w

/-- Exchange the buffer `old` for the buffer `new` in its slot. -/
def rebind (old new : HostId) : Step DeviceError Workspace SlotId := do
  let w ← get
  match w.table.slotOf? old with
  | none => throw (.unboundBuffer old)
  | some s =>
    let slot := w.table.get s
    let current := w.host s
    let next := w.machine.hosts.get new
    if new ≠ old ∧ (w.table.slotOf? new).isSome then
      throw (.incompatibleReference
        ("buffer " ++ new.text ++ " is already bound to another slot"))
    if next.type ≠ current.type then
      throw (.incompatibleReference
        ("element type " ++ next.type.name ++ " does not match bound type " ++
          current.type.name))
    let resized := next.byteLen != current.byteLen
    let w := if resized then w.drop slot.allocation else w
    let kept := if resized then none else slot.allocation
    set { w with table := w.table.replace old new s ⟨new, kept, none⟩ }
    return s

/-- Give up the device memory of a slot. The buffer stays. -/
def release (w : Workspace) (s : SlotId) : Workspace :=
  (w.drop (w.table.get s).allocation).setSlot s (.fresh (w.table.get s).host)

/-- Give up the device memory of all slots. -/
def releaseAll (w : Workspace) : Workspace :=
  (List.range w.table.slots.size).foldl (fun w i => w.release ⟨i⟩) w

end Workspace

end Offload
