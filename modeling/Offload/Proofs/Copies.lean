import Mathlib.Algebra.BigOperators.Group.Finset.Basic
import Mathlib.Algebra.GroupWithZero.Nat
import Offload.Proofs.Running

/-!
# What a node copies

A node that copies reports a number of bytes, which is added up beside the copies and not by them.
Here the same steps are put together with a note of every copy, taken where the device makes it.
Without the notes they are what a node does, and the bytes that it reports are those of the copies.

* `Device.send`, `Device.fetch` — copies with a note; `Workspace.send`, `Workspace.fetch` and
  `Graph.copying` pass the notes on.
* `Graph.perform_eq_copying` — what a node does and reports.
* `Workspace.Moves` — buffers keep their sizes while copies are made, and the device has counted a
  call for every copy.
* `Graph.copying_inv` — how many bytes a node copies, by what it finds when it starts.
-/

namespace Offload

open Step

/-! ### Copies -/

/-- Which way bytes are copied. -/
inductive Direction where
  /-- from the host to the device -/
  | toDevice
  /-- from the device to the host -/
  | toHost
deriving DecidableEq

/-- The call of the device that copies this way. -/
def Direction.call : Direction → Call
  | toDevice => .upload
  | toHost => .download

/-- A copy that a device made. -/
structure Copy where
  /-- which way it went -/
  direction : Direction
  /-- the host buffer at the one end -/
  buffer : HostId
  /-- the number of bytes -/
  size : Nat
deriving DecidableEq

/-- The number of bytes of all copies. -/
def Copy.total (cs : List Copy) : Nat := (cs.map Copy.size).sum

theorem Copy.total_cons (c : Copy) (cs : List Copy) : total (c :: cs) = c.size + total cs := by
  rw [total, List.map_cons, List.sum_cons, total]

namespace Device

/-- Copy bytes of a buffer into an allocation. The result is a note of the copy. -/
def send (b : HostId) (a : Allocation) (src : Bytes) : Step DeviceError Device Copy := do
  upload a src
  return ⟨.toDevice, b, src.size⟩

/-- Copy an allocation to `n` bytes of a buffer. The result has a note of the copy. -/
def fetch (b : HostId) (a : Allocation) (n : Nat) : Step DeviceError Device (Copy × Bytes) := do
  let bytes ← download a n
  return (⟨.toHost, b, n⟩, bytes)

end Device

namespace Workspace

/-- Copy the buffer in a slot to device memory, and pass on the note. -/
def send (s : SlotId) : Step DeviceError Workspace Copy := do
  let _ ← ensureAllocated s
  let a ← allocation s
  let w ← get
  let c ← onDevice (Device.send (w.table.get s).host a (w.host s).bytes)
  markSynced s (w.host s).version
  return c

/-- Copy device memory to the buffer in a slot, and pass on the note. -/
def fetch (s : SlotId) : Step DeviceError Workspace Copy := do
  let a ← allocation s
  let w ← get
  let h := (w.host s).touch
  modify (·.setHost s h)
  let (c, bytes) ← onDevice (Device.fetch (w.table.get s).host a h.bytes.size)
  modify (·.setHost s (h.patch 0 bytes.toList))
  markSynced s h.version
  return c

/-- The copy that the buffer in a slot amounts to. -/
def copyOf (w : Workspace) (d : Direction) (s : SlotId) : Copy :=
  ⟨d, (w.table.get s).host, (w.host s).byteLen⟩

end Workspace

namespace Graph

/-- Copy slots to the device, unless they agree with it and that is enough, and collect the
notes. -/
def sendAll (node : String) (always : Bool) : List SlotId → Step GraphError Site (List Copy)
  | [] => pure []
  | s :: r => do
    let _ ← inNode node .transfer (Workspace.ensureAllocated s)
    if always || (← get).workspace.isStale s then
      let c ← inNode node .transfer (Workspace.send s)
      return c :: (← sendAll node always r)
    else sendAll node always r

/-- Copy slots to the host and collect the notes. -/
def fetchAll (node : String) : List SlotId → Step GraphError Site (List Copy)
  | [] => pure []
  | s :: r => do
    let c ← inNode node .transfer (Workspace.fetch s)
    return c :: (← fetchAll node r)

/-- Carry out an action. The result is the copies that were made, in order. -/
def copying (node : String) : Action → Step GraphError Site (List Copy)
  | .streamIn slots => sendAll node true slots
  | .copyIn slots => sendAll node false slots
  | .task k args => do
    launch node k args
    return []
  | .streamOut slots => fetchAll node slots
  | .barrier => do
    inNode node .launch (Workspace.onDevice Device.synchronize)
    return []

end Graph

/-! ### Copies change no sizes, and they are counted -/

namespace Device

/-- A call leaves the counts of other kinds alone. -/
theorem count_call_ne {c c' : Call} (h : c ≠ c') (d : Device) :
    (call c d).2.count c' = d.count c' := by
  rw [call_apply, count_counted, if_neg h]

/-- A launch counts as nothing else. -/
theorem count_launch {c : Call} (h : .launch ≠ c) (k : Kernel) (args : List LaunchArg)
    (d : Device) : (launch k args d).2.count c = d.count c := by
  have hcall := count_call_ne h d
  rw [launch_apply]
  rcases hd : call .launch d with ⟨e | u, d₁⟩ <;> rw [hd] at hcall
  · exact hcall
  · dsimp only
    split
    · exact hcall
    · split <;> exact hcall

end Device

/-- A buffer in place of another one of the same type and length leaves all sizes alone. -/
theorem HostMemory.byteLen_set {m : HostMemory} {id : HostId} {b : HostBuffer}
    (ht : b.type = (m.get id).type) (hlen : b.len = (m.get id).len) (id' : HostId) :
    ((m.set id b).get id').byteLen = (m.get id').byteLen := by
  by_cases hid : m.Has id
  · by_cases he : id' = id
    · rw [he, get_set_self b hid, HostBuffer.byteLen, HostBuffer.byteLen, ht, hlen]
    · rw [get_set_ne m b he]
  · rw [set_of_not_has hid]

namespace Workspace

variable {w w' w'' : Workspace} {s x : SlotId} {cs cs' : List Copy}

/-- On the way from `w` to `w'` the copies `cs` were made, and nothing else was copied. -/
structure Moves (cs : List Copy) (w w' : Workspace) : Prop where
  /-- slots keep their buffers -/
  buffer : ∀ s, (w'.table.get s).host = (w.table.get s).host
  /-- buffers keep their sizes -/
  size : ∀ s, (w'.host s).byteLen = (w.host s).byteLen
  /-- a call was counted for every copy -/
  calls : ∀ d : Direction,
    w'.device.count d.call = w.device.count d.call + cs.countP (·.direction = d)

namespace Moves

theorem refl (w : Workspace) : Moves [] w w := ⟨fun _ => rfl, fun _ => rfl, fun _ => rfl⟩

theorem trans (h : Moves cs w w') (h' : Moves cs' w' w'') : Moves (cs ++ cs') w w'' where
  buffer s := (h'.buffer s).trans (h.buffer s)
  size s := (h'.size s).trans (h.size s)
  calls d := by rw [h'.calls, h.calls, List.countP_append, Nat.add_assoc]

/-- Making no copies after some others. -/
theorem trans_nil (h : Moves cs w w') (h' : Moves [] w' w'') : Moves cs w w'' :=
  List.append_nil cs ▸ h.trans h'

/-- The copy of a slot is the same before and after others. -/
theorem copyOf_eq (h : Moves cs w w') (d : Direction) (s : SlotId) :
    w'.copyOf d s = w.copyOf d s := by
  rw [copyOf, copyOf, h.buffer, h.size]

/-- The device did something else than to copy. -/
theorem withDevice {d : Device} (h : ∀ x : Direction, d.count x.call = w.device.count x.call) :
    Moves [] w (w.withDevice d) := ⟨fun _ => rfl, fun _ => rfl, h⟩

/-- The device made a copy. -/
theorem copied {c : Copy} {d : Device}
    (h : ∀ c', d.count c' = (w.device.counted c.direction.call).count c') :
    Moves [c] w (w.withDevice d) := by
  refine ⟨fun _ => rfl, fun _ => rfl, fun x => ?_⟩
  show d.count x.call = _
  rw [h, Device.count_counted, List.countP_singleton]
  cases hc : c.direction <;> cases x <;> simp [Direction.call]

/-- A slot that keeps its buffer. -/
theorem setSlot {y : Slot} (hhost : y.host = (w.table.get s).host) :
    Moves [] w (w.setSlot s y) := by
  have hbuffer : ∀ s', ((w.table.set s y).get s').host = (w.table.get s').host := by
    intro s'
    rcases SlotTable.get_set_cases w.table s s' y with ⟨rfl, -, hget⟩ | ⟨-, hget⟩ <;> rw [hget]
    exact hhost
  exact ⟨hbuffer, fun s' => by rw [host, host, Workspace.setSlot, hbuffer], fun _ => rfl⟩

/-- A buffer that keeps its type and its length. -/
theorem setHost {h : HostBuffer} (ht : h.type = (w.host s).type) (hlen : h.len = (w.host s).len) :
    Moves [] w (w.setHost s h) :=
  ⟨fun _ => rfl, fun _ => HostMemory.byteLen_set ht hlen _, fun _ => rfl⟩

/-- Making room copies nothing. -/
theorem ensureAllocated (s : SlotId) (w : Workspace) : Moves [] w (ensureAllocated s w).2 := by
  have hroom : ∀ d : Device, (Device.allocate (w.host s).type (w.host s).len w.device).2 = d →
      Moves [] w (w.withDevice d) := by
    rintro d rfl
    exact withDevice fun _ => rfl
  rw [ensureAllocated_apply]
  split
  · exact refl w
  · rcases h : Device.allocate (w.host s).type (w.host s).len w.device with ⟨e | a, d⟩
    · exact hroom d (congrArg Prod.snd h)
    · exact (hroom d (congrArg Prod.snd h)).trans_nil (setSlot rfl)

/-- Compiling a kernel copies nothing. -/
theorem compile (k : Kernel) (w : Workspace) :
    Moves [] w (onContext (Context.compile k) w).2 := by
  refine ⟨fun _ => rfl, fun _ => rfl, fun d => ?_⟩
  exact congrArg (Device.count · d.call) (Context.device_compile k w.machine.context)

/-- Waiting for the device copies nothing. -/
theorem synchronize (w : Workspace) : Moves [] w (onDevice Device.synchronize w).2 :=
  withDevice fun d => Device.count_call_ne (by cases d <;> nofun) w.device

/-- A kernel copies nothing. -/
theorem launch (k : Kernel) (given : List LaunchArg) (w : Workspace) :
    Moves [] w (onDevice (Device.launch k given) w).2 :=
  withDevice fun d => Device.count_launch (by cases d <;> nofun) k given w.device

end Moves
end Workspace

/-! ### One slot -/

/-- Bytes are only copied to memory that is there, and the copy is counted. -/
theorem Device.upload_ok {a : Allocation} {src : Bytes} {u : Unit} {d d' : Device}
    (h : upload a src d = (.ok u, d')) :
    a.isAllocated = true ∧ ∀ c, d'.count c = (d.counted .upload).count c := by
  rw [upload] at h
  obtain ⟨u', d₁, hcall, hpoke⟩ := Step.bind_eq_ok h
  have hd₁ : d₁ = d.counted .upload := by
    rw [call_apply] at hcall
    exact (congrArg Prod.snd hcall).symm
  rw [poke] at hpoke
  rcases hm : d₁.pool.arena.upload a src with e | m <;> rw [hm] at hpoke <;> cases hpoke
  refine ⟨?_, fun c => hd₁ ▸ rfl⟩
  rw [Arena.upload] at hm
  rcases hs : Arena.checkSize a src.size with e | u₁ <;> rw [hs] at hm
  · cases hm
  · rcases hb : a.block with _ | id
    · rw [Arena.raw, hb] at hm
      cases hm
    · rw [Allocation.isAllocated, hb]
      rfl

/-- A copy to the host is counted. -/
theorem Device.download_ok {a : Allocation} {n : Nat} {bytes : Bytes} {d d' : Device}
    (h : download a n d = (.ok bytes, d')) :
    ∀ c, d'.count c = (d.counted .download).count c := by
  rw [download] at h
  obtain ⟨u, d₁, hcall, hread⟩ := Step.bind_eq_ok h
  have hd₁ : d₁ = d.counted .download := by
    rw [call_apply] at hcall
    exact (congrArg Prod.snd hcall).symm
  have hd' : d₁ = d' := congrArg Prod.snd hread
  intro c
  rw [← hd', hd₁]

namespace Workspace

variable {w w' : Workspace} {s : SlotId}

theorem allocation_apply (s : SlotId) (w : Workspace) :
    allocation s w =
      ((w.table.get s).allocation.elim (.error .notAllocated) .ok, w) := by
  rw [allocation, bind_apply, get_apply]
  dsimp only
  rcases (w.table.get s).allocation with _ | a <;> rfl

/-- A copy to the device with a note is that copy, and the note says what it was. -/
theorem send_apply (s : SlotId) (w : Workspace) :
    send s w = ((upload s w).1.map fun _ => w.copyOf .toDevice s, (upload s w).2) := by
  have hroom := Moves.ensureAllocated s w
  rw [send, upload]
  rcases he : ensureAllocated s w with ⟨e | b, w₁⟩ <;> rw [he] at hroom
  · rw [bind_of_error he, bind_of_error he]
    rfl
  · rw [bind_of_ok he, bind_of_ok he]
    have hnote : w.copyOf .toDevice s =
        ⟨.toDevice, (w₁.table.get s).host, (w₁.host s).bytes.size⟩ := by
      rw [← hroom.copyOf_eq, HostBuffer.size_bytes]
      rfl
    rcases ha : (w₁.table.get s).allocation with _ | a
    · simp only [bind_apply, allocation_apply, ha]
      rfl
    · simp only [bind_apply, allocation_apply, ha, Option.elim_some, get_apply, onDevice_apply,
        Device.send, hnote]
      rcases Device.upload a (w₁.host s).bytes w₁.device with ⟨e | u, d⟩ <;> rfl

/-- A copy to the host with a note is that copy, and the note says what it was. -/
theorem fetch_apply (s : SlotId) (w : Workspace) :
    fetch s w = ((download s w).1.map fun _ => w.copyOf .toHost s, (download s w).2) := by
  have hnote : w.copyOf .toHost s =
      ⟨.toHost, (w.table.get s).host, (w.host s).touch.bytes.size⟩ := by
    rw [HostBuffer.size_bytes]
    rfl
  rw [fetch, download, hnote]
  rcases ha : (w.table.get s).allocation with _ | a
  · simp only [bind_apply, allocation_apply, ha]
    rfl
  · simp only [bind_apply, allocation_apply, ha, Option.elim_some, get_apply, modify_apply,
      onDevice_apply, Device.fetch]
    rcases Device.download a (w.host s).touch.bytes.size (w.setHost s (w.host s).touch).device
      with ⟨e | bytes, d⟩ <;> rfl

/-- Whether a slot is stale depends on the slot and on host memory. -/
theorem isStale_congr {x : SlotId} (hslot : w'.table.get x = w.table.get x)
    (hhosts : w'.machine.hosts = w.machine.hosts) : w'.isStale x = w.isStale x := by
  rw [isStale, isStale, host, host, hslot, hhosts]

/-- Making room brings nothing up to date. -/
theorem isStale_ensureAllocated (s x : SlotId) (w : Workspace) :
    (ensureAllocated s w).2.isStale x = w.isStale x := by
  rw [ensureAllocated_apply]
  split
  · rfl
  · rename_i hnone
    rcases Device.allocate (w.host s).type (w.host s).len w.device with ⟨e | a, d⟩
    · rfl
    · rcases SlotTable.get_set_cases w.table s x ⟨(w.table.get s).host, some a, none⟩ with
        ⟨rfl, -, hget⟩ | ⟨-, hget⟩
      · -- it had no memory, and what it has now agrees with nothing
        have hbefore : w.isStale x = true := by simp [isStale, hnone]
        rw [hbefore]
        show (_ || ((w.table.set x _).get x).synced != _) = true
        rw [hget, Bool.or_eq_true]
        exact .inr rfl
      · exact isStale_congr hget rfl

/-- A slot with device memory that agrees with its buffer is not stale. -/
theorem isStale_setSlot {y : Slot} (hs : w.table.Has s) (hroom : y.isAllocated = true)
    (hsync : y.synced = some (w.machine.hosts.get y.host).version) :
    (w.setSlot s y).isStale s = false := by
  have hget : (w.setSlot s y).table.get s = y := SlotTable.get_set_self hs
  rw [isStale, host, hget, hroom, hsync]
  exact bne_self_eq_false _

/-- What a copy to the device does: the slot is up to date afterwards, and the others are as they
were. -/
theorem upload_ok {u : Unit} (h : upload s w = (.ok u, w')) :
    Moves [w.copyOf .toDevice s] w w' ∧ ∀ x, w'.isStale x = (decide (x ≠ s) && w.isStale x) := by
  have hroom := Moves.ensureAllocated s w
  have hstale := fun x => isStale_ensureAllocated s x w
  rw [upload_apply] at h
  rcases he : ensureAllocated s w with ⟨e | b, w₁⟩ <;> rw [he] at h hroom hstale
  · cases h
  · dsimp only at h
    rcases ha : (w₁.table.get s).allocation with _ | a <;> rw [ha] at h
    · cases h
    · dsimp only at h
      rcases hd : Device.upload a (w₁.host s).bytes w₁.device with ⟨e | u, d⟩ <;> rw [hd] at h <;>
        cases h
      obtain ⟨hblock, hcount⟩ := Device.upload_ok hd
      constructor
      · have hcopy : Moves [w.copyOf .toDevice s] w₁ (w₁.withDevice d) := .copied hcount
        exact (hroom.trans hcopy).trans_nil (.setSlot rfl)
      · intro x
        by_cases hx : x = s
        · subst hx
          have hmade : w₁.table.Has x := by
            refine Classical.byContradiction fun hnot => ?_
            rw [SlotTable.get_of_not_has hnot] at ha
            cases ha
          have hroom : (w₁.table.get x).isAllocated = true := by
            rw [Slot.isAllocated, ha]
            exact hblock
          rw [decide_eq_false (not_not_intro rfl), Bool.false_and]
          exact isStale_setSlot hmade hroom rfl
        · rw [decide_eq_true hx, Bool.true_and, ← hstale x]
          exact isStale_congr (SlotTable.get_set_ne hx) rfl

/-- What a copy to the host does. -/
theorem download_ok {u : Unit} (h : download s w = (.ok u, w')) :
    Moves [w.copyOf .toHost s] w w' := by
  rw [download_apply] at h
  rcases ha : (w.table.get s).allocation with _ | a <;> rw [ha] at h
  · cases h
  · dsimp only at h
    rcases hd : Device.download a (w.host s).touch.bytes.size w.device with ⟨e | bytes, d⟩ <;>
      rw [hd] at h <;> cases h
    have hcopy : Moves [w.copyOf .toHost s] w (w.withDevice d) :=
      .copied (Device.download_ok hd)
    have hwrite : Moves [] (w.withDevice d)
        ((w.withDevice d).setHost s ((w.host s).touch.patch 0 bytes.toList)) := .setHost rfl rfl
    exact (hcopy.trans_nil hwrite).trans_nil (.setSlot rfl)

end Workspace

/-! ### What a node does and reports -/

namespace Graph

variable {node : String}

theorem inNode_send (node : String) (slot : SlotId) (s : Site) :
    inNode node .transfer (Workspace.send slot) s =
      ((inNode node .transfer (Workspace.upload slot) s).1.map
          fun _ => s.workspace.copyOf .toDevice slot,
        (inNode node .transfer (Workspace.upload slot) s).2) := by
  rw [inNode_apply, inNode_apply, Workspace.send_apply]
  rcases Workspace.upload slot s.workspace with ⟨e | u, w⟩ <;> rfl

theorem inNode_fetch (node : String) (slot : SlotId) (s : Site) :
    inNode node .transfer (Workspace.fetch slot) s =
      ((inNode node .transfer (Workspace.download slot) s).1.map
          fun _ => s.workspace.copyOf .toHost slot,
        (inNode node .transfer (Workspace.download slot) s).2) := by
  rw [inNode_apply, inNode_apply, Workspace.fetch_apply]
  rcases Workspace.download slot s.workspace with ⟨e | u, w⟩ <;> rfl

/-- The size that is counted for a copy is the one that was copied, as copies change no sizes. -/
theorem transferIn_eq_sendAll (always : Bool) (slots : List SlotId) :
    transferIn node always slots = Copy.total <$> sendAll node always slots := by
  induction slots with
  | nil => rfl
  | cons slot r ih =>
    funext s
    rw [map_apply, transferIn, sendAll]
    rcases hroom : inNode node .transfer (Workspace.ensureAllocated slot) s with ⟨e | b, s₁⟩
    · rw [bind_of_error hroom, bind_of_error hroom]
      rfl
    · rw [bind_of_ok hroom, bind_of_ok hroom, bind_apply, bind_apply, get_apply]
      dsimp only
      split
      · have hsend := inNode_send node slot s₁
        rcases hup : inNode node .transfer (Workspace.upload slot) s₁ with ⟨e | u, s₂⟩ <;>
          rw [hup] at hsend
        · rw [bind_of_error hup, bind_of_error hsend]
          rfl
        · have hsize : (s₂.workspace.host slot).byteLen = (s₁.workspace.host slot).byteLen :=
            (Workspace.upload_ok (of_inNode hup)).1.size slot
          rw [bind_of_ok hup, bind_of_ok hsend, bytesIn_bind, ih, hsize]
          rcases hr : sendAll node always r s₂ with ⟨e | cs, t⟩
          · simp only [bind_apply, map_apply, hr]
            rfl
          · simp only [bind_apply, map_apply, hr, pure_apply, Except.map, Copy.total_cons]
            rfl
      · rw [ih, map_apply]

theorem transferOut_eq_fetchAll (slots : List SlotId) :
    transferOut node slots = Copy.total <$> fetchAll node slots := by
  induction slots with
  | nil => rfl
  | cons slot r ih =>
    funext s
    rw [map_apply, transferOut, fetchAll]
    have hfetch := inNode_fetch node slot s
    rcases hdown : inNode node .transfer (Workspace.download slot) s with ⟨e | u, s₁⟩ <;>
      rw [hdown] at hfetch
    · rw [bind_of_error hdown, bind_of_error hfetch]
      rfl
    · have hsize : (s₁.workspace.host slot).byteLen = (s.workspace.host slot).byteLen :=
        (Workspace.download_ok (of_inNode hdown)).size slot
      rw [bind_of_ok hdown, bind_of_ok hfetch, bytesIn_bind, ih, hsize]
      rcases hr : fetchAll node r s₁ with ⟨e | cs, t⟩
      · simp only [bind_apply, map_apply, hr]
        rfl
      · simp only [bind_apply, map_apply, hr, pure_apply, Except.map, Copy.total_cons]
        rfl

/-- Without the notes, a node does what it does, and what it reports is the number of bytes of its
copies. -/
theorem perform_eq_copying (node : String) (a : Action) :
    perform node a = Copy.total <$> copying node a := by
  cases a with
  | streamIn slots => exact transferIn_eq_sendAll true slots
  | copyIn slots => exact transferIn_eq_sendAll false slots
  | streamOut slots => exact transferOut_eq_fetchAll slots
  | task k args =>
    rw [perform, copying, map_eq_pure_bind, bind_assoc]
    rfl
  | barrier =>
    rw [perform, copying, map_eq_pure_bind, bind_assoc]
    rfl

end Graph

/-! ### How much a node copies -/

/-- The number of bytes that an action copies, by what it finds when it starts. Copies of what is
stale count a slot once, as it is up to date when it is reached again. -/
def Action.bytes (w : Workspace) : Action → Nat
  | streamIn slots | streamOut slots => (slots.map fun s => (w.host s).byteLen).sum
  | copyIn slots => ∑ s ∈ slots.toFinset with w.isStale s, (w.host s).byteLen
  | task _ _ | barrier => 0

namespace Graph

variable {node : String} {always : Bool} {slot : SlotId} {slots : List SlotId} {s t : Site}
  {cs : List Copy}

/-- What becomes of the first of some slots that are copied to the device: it is copied and is up
to date from then on, or it is not copied. -/
theorem sendAll_cons_ok (h : sendAll node always (slot :: slots) s = (.ok cs, t)) :
    ((always || s.workspace.isStale slot) = true ∧ ∃ s₁ cs',
      cs = s.workspace.copyOf .toDevice slot :: cs' ∧
      Workspace.Moves [s.workspace.copyOf .toDevice slot] s.workspace s₁.workspace ∧
      (∀ x, s₁.workspace.isStale x = (decide (x ≠ slot) && s.workspace.isStale x)) ∧
      sendAll node always slots s₁ = (.ok cs', t)) ∨
    ((always || s.workspace.isStale slot) = false ∧ ∃ s₁,
      Workspace.Moves [] s.workspace s₁.workspace ∧
      (∀ x, s₁.workspace.isStale x = s.workspace.isStale x) ∧
      sendAll node always slots s₁ = (.ok cs, t)) := by
  rw [sendAll] at h
  obtain ⟨b, s₁, hroom, h⟩ := bind_eq_ok h
  have hroom := of_inNode hroom
  have hmoves := Workspace.Moves.ensureAllocated slot s.workspace
  have hstale := fun x => Workspace.isStale_ensureAllocated slot x s.workspace
  rw [hroom] at hmoves hstale
  dsimp only at hmoves hstale
  rw [bind_apply, get_apply] at h
  dsimp only at h
  rw [hstale] at h
  split at h
  · rename_i hcopy
    obtain ⟨c, s₂, hsend, h⟩ := bind_eq_ok h
    obtain ⟨cs', t', hrest, h⟩ := bind_eq_ok h
    cases h
    rw [inNode_send] at hsend
    rcases hup : inNode node .transfer (Workspace.upload slot) s₁ with ⟨e | u, s₃⟩ <;>
      rw [hup] at hsend <;> cases hsend
    obtain ⟨hcopied, hfresh⟩ := Workspace.upload_ok (of_inNode hup)
    rw [hmoves.copyOf_eq] at hcopied ⊢
    refine .inl ⟨hcopy, s₃, cs', rfl, hmoves.trans hcopied, fun x => ?_, hrest⟩
    rw [hfresh, hstale]
  · rename_i hskip
    exact .inr ⟨Bool.eq_false_iff.mpr hskip, s₁, hmoves, hstale, h⟩

/-- Slots that are copied to the device are the only thing that is copied. -/
theorem moves_sendAll (h : sendAll node always slots s = (.ok cs, t)) :
    Workspace.Moves cs s.workspace t.workspace := by
  induction slots generalizing s cs with
  | nil =>
    cases h
    exact .refl _
  | cons slot r ih =>
    rcases sendAll_cons_ok h with ⟨-, s₁, cs', rfl, hmoves, -, hrest⟩ | ⟨-, s₁, hmoves, -, hrest⟩
    · exact hmoves.trans (ih hrest)
    · exact hmoves.trans (ih hrest)

/-- Every slot is copied, as often as it is listed. -/
theorem total_sendAll_always (h : sendAll node true slots s = (.ok cs, t)) :
    Copy.total cs = (slots.map fun x => (s.workspace.host x).byteLen).sum := by
  induction slots generalizing s cs with
  | nil =>
    cases h
    rfl
  | cons slot r ih =>
    rcases sendAll_cons_ok h with ⟨-, s₁, cs', rfl, hmoves, -, hrest⟩ | ⟨hnot, -⟩
    · rw [Copy.total_cons, ih hrest, List.map_cons, List.sum_cons]
      simp only [hmoves.size]
      rfl
    · cases hnot

/-- Every slot that is stale is copied once. -/
theorem total_sendAll_stale (h : sendAll node false slots s = (.ok cs, t)) :
    Copy.total cs =
      ∑ x ∈ slots.toFinset with s.workspace.isStale x, (s.workspace.host x).byteLen := by
  induction slots generalizing s cs with
  | nil =>
    cases h
    rfl
  | cons slot r ih =>
    rw [List.toFinset_cons]
    rcases sendAll_cons_ok h with
      ⟨hcopy, s₁, cs', rfl, hmoves, hstale, hrest⟩ | ⟨hskip, s₁, hmoves, hstale, hrest⟩
    · rw [Bool.false_or] at hcopy
      -- the others that are stale now are those that were, as it is up to date itself
      have hothers : (r.toFinset.filter fun x => s₁.workspace.isStale x) =
          ((insert slot r.toFinset).filter fun x => s.workspace.isStale x).erase slot := by
        ext x
        simp only [Finset.mem_filter, Finset.mem_erase, Finset.mem_insert, hstale,
          Bool.and_eq_true, decide_eq_true_eq]
        tauto
      have hmem : slot ∈ (insert slot r.toFinset).filter fun x => s.workspace.isStale x :=
        Finset.mem_filter.mpr ⟨Finset.mem_insert_self _ _, hcopy⟩
      rw [Copy.total_cons, ih hrest, hothers, ← Finset.add_sum_erase _ _ hmem]
      simp only [hmoves.size]
      rfl
    · rw [Bool.false_or] at hskip
      rw [ih hrest, Finset.filter_insert, if_neg (Bool.eq_false_iff.mp hskip)]
      simp only [hmoves.size, hstale]

/-- Copies to the host are made of every slot, as often as it is listed. -/
theorem fetchAll_ok (h : fetchAll node slots s = (.ok cs, t)) :
    Workspace.Moves cs s.workspace t.workspace ∧
      Copy.total cs = (slots.map fun x => (s.workspace.host x).byteLen).sum := by
  induction slots generalizing s cs with
  | nil =>
    cases h
    exact ⟨.refl _, rfl⟩
  | cons slot r ih =>
    rw [fetchAll] at h
    obtain ⟨c, s₁, hfetch, h⟩ := bind_eq_ok h
    obtain ⟨cs', t', hrest, h⟩ := bind_eq_ok h
    cases h
    rw [inNode_fetch] at hfetch
    rcases hdown : inNode node .transfer (Workspace.download slot) s with ⟨e | u, s₂⟩ <;>
      rw [hdown] at hfetch <;> cases hfetch
    have hmoves := Workspace.download_ok (of_inNode hdown)
    obtain ⟨hmoved, htotal⟩ := ih hrest
    refine ⟨hmoves.trans hmoved, ?_⟩
    rw [Copy.total_cons, htotal, List.map_cons, List.sum_cons]
    simp only [hmoves.size]
    rfl

/-- A task copies nothing. -/
theorem moves_launch (node : String) (k : Kernel) (args : List TaskArg) :
    Follows (fun s t : Site => Workspace.Moves [] s.workspace t.workspace)
      (launch node k args) := by
  have htrans : ∀ s s' s'' : Site, Workspace.Moves [] s.workspace s'.workspace →
      Workspace.Moves [] s'.workspace s''.workspace →
      Workspace.Moves [] s.workspace s''.workspace := fun _ _ _ => .trans_nil
  have hrefl : ∀ s : Site, Workspace.Moves [] s.workspace s.workspace := fun _ => .refl _
  refine .bind htrans (.each hrefl htrans fun slot _ => ?_) fun _ =>
    .bind htrans (fun s => Workspace.Moves.compile k s.workspace) fun p => .get_bind fun s => ?_
  · exact .bind htrans (fun s => Workspace.Moves.ensureAllocated slot s.workspace) fun _ =>
      .pure hrefl ()
  · rcases hgiven : args.mapM (launchArg s.graph.table) with e | given
    · exact hrefl s
    · have hrun : Workspace.Moves [] s.workspace (inNode node .launch
          (Workspace.onDevice (Device.launch p.kernel given)) s).2.workspace :=
        Workspace.Moves.launch p.kernel given s.workspace
      exact (snd_bind_pure (inNode node .launch
        (Workspace.onDevice (Device.launch p.kernel given))) () s).symm ▸ hrun

/-- What a node that is completed has copied: the device has counted a call for every copy and has
copied nothing else, and how many bytes these are can be told when the node starts. -/
theorem copying_ok {a : Action} (h : copying node a s = (.ok cs, t)) :
    Workspace.Moves cs s.workspace t.workspace ∧ Copy.total cs = a.bytes s.workspace := by
  cases a with
  | streamIn slots => exact ⟨moves_sendAll h, total_sendAll_always h⟩
  | copyIn slots => exact ⟨moves_sendAll h, total_sendAll_stale h⟩
  | streamOut slots => exact fetchAll_ok h
  | task k args =>
    have hmoves := moves_launch node k args s
    obtain ⟨u, s₁, hlaunch, h⟩ := bind_eq_ok h
    rw [hlaunch] at hmoves
    cases h
    exact ⟨hmoves, rfl⟩
  | barrier =>
    obtain ⟨u, s₁, hwait, h⟩ := bind_eq_ok h
    have hmoves := Workspace.Moves.synchronize s.workspace
    rw [of_inNode hwait] at hmoves
    cases h
    exact ⟨hmoves, rfl⟩

end Graph

end Offload
