import Offload.Proofs.Alike

/-!
# What steps cannot see

Copies and kernels see the blocks that they are given and nothing else of a device. Of two
workspaces that look the same to them they make the same, whatever is behind the veil.

* `Execution.Veil`, `Device.Veil`, `Workspace.Veil` — a relation that hides something from whoever
  keeps to some blocks, and that their changes keep.
* `Kernel.agree_execute`, `Device.Veil.agree_launch` — kernels keep to the blocks that they are
  given.
* `Workspace.Veil.agree_upload`, `Workspace.Veil.agree_download` — copies keep to their slot.
-/

namespace Offload

open Step

/-! ### Kernels -/

/-- Related executions have the same in the blocks for which `B` holds. They stay related if one of
these is written on both sides, or something is reported on both sides. -/
structure Execution.Veil (B : BlockId → Prop) (E : Execution → Execution → Prop) : Prop where
  /-- the blocks are the same -/
  block : ∀ s s' id, E s s' → B id → s'.arena.get? id = s.arena.get? id
  /-- one of them may be written -/
  patch : ∀ s s' id offset xs, E s s' → B id →
    E { s with arena := s.arena.modify id (·.patch offset xs) }
      { s' with arena := s'.arena.modify id (·.patch offset xs) }
  /-- something may be reported -/
  report : ∀ s s' n, E s s' →
    E { s with notes := s.notes.push n } { s' with notes := s'.notes.push n }

section

variable {B : BlockId → Prop} {E : Execution → Execution → Prop} {s s' : Execution}

/-- The frame reaches only blocks for which `B` holds. -/
def Frame.Within (f : Frame) (B : BlockId → Prop) : Prop :=
  ∀ i id, f.locks.block? i = some id → B id

/-- The two executions show the frame the same. -/
theorem Frame.view_congr {f : Frame} (hf : f.Within B) (hE : Execution.Veil B E) (h : E s s')
    (i : Nat) (t : ElementType) (write : Bool) :
    f.view s'.arena i t write = f.view s.arena i t write := by
  rw [view, view]
  rcases hb : f.buffer i t write with e | ⟨id, len⟩
  · rfl
  · dsimp only
    rw [hE.block s s' id h (hf i id (buffer_inv hb).1)]

/-- A view leads to a block that the frame reaches. -/
theorem Frame.within_of_view {f : Frame} {m : Arena} {i : Nat} {t : ElementType} {write : Bool}
    {id : BlockId} {v : View t} (hf : f.Within B) (h : f.view m i t write = .ok (id, v)) :
    B id :=
  hf i id (buffer_inv (view_inv h)).1

/-- What a body does depends on what it sees. -/
theorem Body.agree_run {f : Frame} (hf : f.Within B) (hE : Execution.Veil B E) (b : Body)
    (h : E s s') : Agree E (b.run f s) (b.run f s') := by
  induction b generalizing s s' with
  | done => exact .ok () h
  | fail e => exact .error _ h
  | crash text => exact .error _ h
  | count next ih => exact ih _ h
  | len index next ih => exact ih _ h
  | scalar index t next ih => exact ih _ h
  | view index t next ih | writable index t next ih =>
    rw [run]
    dsimp only
    rw [Frame.view_congr hf hE h]
    split
    · exact ih _ h
    · exact ih _ h
    · exact .error _ h
  | store index t place v next ih =>
    rw [run]
    dsimp only
    rw [Frame.view_congr hf hE h]
    rcases hview : f.view s.arena index t true with (e | text) | ⟨id, w⟩
    · exact ih _ h
    · exact .error _ h
    · dsimp only
      split
      · exact ih _ (hE.patch s s' id _ _ h (Frame.within_of_view hf hview))
      · exact .error _ h
  | report n next ih => exact ih (hE.report s s' n h)

namespace Kernel

theorem agree_runItems (k : Kernel) {f : Frame} (hf : f.Within B) (hE : Execution.Veil B E)
    (g : Grid) (n first : Nat) (h : E s s') :
    Agree E (k.runItems f g n first s) (k.runItems f g n first s') := by
  induction n generalizing first s s' with
  | zero => exact .ok () h
  | succ n ih =>
    have hbody := Body.agree_run hf hE (k.body (g.item first)) h
    rw [runItems]
    dsimp only
    rcases hr : (k.body (g.item first)).run f s with ⟨r, s₁⟩
    rcases hr' : (k.body (g.item first)).run f s' with ⟨r', s₁'⟩
    rw [hr, hr'] at hbody
    cases hbody with
    | ok h₁ => exact ih (first + 1) h₁.2
    | error h₁ =>
      obtain ⟨rfl, h₁⟩ := h₁
      exact .error _ h₁

/-- What can be held is the same on both sides. -/
theorem acquireFrom_congr {m m' : Arena} {args : List LaunchArg}
    (h : ∀ arg ∈ args, ∀ id, arg.block = some id → m'.get? id = m.get? id) (t : LockTable) :
    LockTable.acquireFrom m' t args = LockTable.acquireFrom m t args := by
  induction args generalizing t with
  | nil => rfl
  | cons arg r ih =>
    have hrest := fun t => ih (fun a ha => h a (List.mem_cons_of_mem _ ha)) t
    cases arg with
    | scalar v => exact hrest _
    | buffer a =>
      rw [LockTable.acquireFrom, LockTable.acquireFrom]
      rcases ha : a.block with _ | id
      · rfl
      · dsimp only
        rw [h (.buffer a) List.mem_cons_self id ha, hrest]

/-- What a kernel does depends on what it sees of the blocks that it is given. -/
theorem agree_execute (k : Kernel) {args : List LaunchArg} (hE : Execution.Veil B E)
    (hargs : ∀ arg ∈ args, ∀ id, arg.block = some id → B id) (g : Grid) (h : E s s') :
    Agree E (k.execute args g s) (k.execute args g s') := by
  have hacquire : LockTable.acquire s'.arena args = LockTable.acquire s.arena args :=
    acquireFrom_congr (fun arg ha id hid => hE.block s s' id h (hargs arg ha id hid)) _
  rw [execute_apply, execute_apply, hacquire]
  rcases hlocks : LockTable.acquire s.arena args with e | locks
  · exact .error e h
  · have hcovers := LockTable.covers_acquire hlocks
    refine (agree_runItems k (f := ⟨k.name, k.params, args, locks⟩) ?_ hE g _ _ h).mapError _
    intro i id hid
    obtain ⟨arg, harg, hblock⟩ := hcovers.exists_arg hid
    exact hargs arg (List.mem_of_getElem? harg) id hblock

end Kernel

end

/-! ### Devices -/

namespace Device

/-- A change of a device, as copies and kernels make them. -/
inductive Edit where
  /-- a call is counted -/
  | count (c : Call)
  /-- a block is written -/
  | patch (id : BlockId) (offset : Nat) (xs : List UInt8)
  /-- a kernel reports something -/
  | report (n : Note)

namespace Edit

/-- Make the change. -/
def apply : Edit → Device → Device
  | count c, d => d.counted c
  | patch id offset xs, d => d.withArena (d.pool.arena.modify id (·.patch offset xs))
  | report n, d => { d with notes := d.notes.push n }

/-- The change is one of blocks for which `B` holds. -/
def Within (e : Edit) (B : BlockId → Prop) : Prop :=
  match e with
  | patch id _ _ => B id
  | _ => True

end Edit

/-- Related devices answer calls in the same way and have the same in the blocks for which `B`
holds. They stay related if the same change is made to both of them. -/
structure Veil (B : BlockId → Prop) (K : Device → Device → Prop) : Prop where
  /-- the same calls fail -/
  faults : ∀ d d', K d d' → d'.faults = d.faults
  /-- as many calls were counted -/
  tally : ∀ d d', K d d' → d'.tally = d.tally
  /-- the blocks are the same -/
  block : ∀ d d' id, K d d' → B id → d'.pool.arena.get? id = d.pool.arena.get? id
  /-- the same change may be made -/
  edit : ∀ d d' (e : Edit), K d d' → e.Within B → K (e.apply d) (e.apply d')

namespace Veil

variable {B : BlockId → Prop} {K : Device → Device → Prop} {d d' : Device} {a : Allocation}
  {id : BlockId}

theorem agree_call (hK : Veil B K) (h : K d d') (c : Call) : Agree K (call c d) (call c d') := by
  have hcount : d'.count c = d.count c := by rw [count, count, hK.tally d d' h]
  have hcounted : K (d.counted c) (d'.counted c) := hK.edit d d' (.count c) h trivial
  rw [call_apply, call_apply, hcount, hK.faults d d' h]
  split
  · exact .error _ hcounted
  · exact .ok () hcounted

theorem agree_upload (hK : Veil B K) (h : K d d') (ha : a.block = some id) (hid : B id)
    (src : Bytes) : Agree K (upload a src d) (upload a src d') := by
  refine (hK.agree_call h .upload).bind fun _ d₁ d₁' h₁ => ?_
  have hraw : d₁'.pool.arena.raw a = d₁.pool.arena.raw a := by
    rw [Arena.raw, Arena.raw, ha, Option.bind_some, Option.bind_some, hK.block d₁ d₁' id h₁ hid]
  rw [poke, poke, Arena.upload, Arena.upload, hraw, ha]
  rcases Arena.checkSize a src.size with e | u
  · exact .error e h₁
  · rcases d₁.pool.arena.raw a with e | b
    · exact .error e h₁
    · exact .ok () (hK.edit d₁ d₁' (.patch id 0 src.toList) h₁ hid)

theorem agree_download (hK : Veil B K) (h : K d d') (ha : a.block = some id) (hid : B id)
    (n : Nat) : Agree K (download a n d) (download a n d') := by
  refine (hK.agree_call h .download).bind fun _ d₁ d₁' h₁ => .get_bind ?_
  have hraw : d₁'.pool.arena.raw a = d₁.pool.arena.raw a := by
    rw [Arena.raw, Arena.raw, ha, Option.bind_some, Option.bind_some, hK.block d₁ d₁' id h₁ hid]
  rw [Arena.download, Arena.download, hraw]
  exact .lift h₁ _

theorem agree_synchronize (hK : Veil B K) (h : K d d') :
    Agree K (synchronize d) (synchronize d') := hK.agree_call h _

theorem agree_execute (hK : Veil B K) (h : K d d') (k : Kernel) {args : List LaunchArg}
    (hargs : ∀ arg ∈ args, ∀ id, arg.block = some id → B id) (g : Grid) :
    Agree K (execute k args g d) (execute k args g d') := by
  -- what the devices look like while the kernel runs
  let E : Execution → Execution → Prop := fun s s' =>
    K { d.withArena s.arena with notes := s.notes } { d'.withArena s'.arena with notes := s'.notes }
  have hE : Execution.Veil B E :=
    { block := fun s s' id hs hid => hK.block _ _ id hs hid
      patch := fun s s' id offset xs hs hid => hK.edit _ _ (.patch id offset xs) hs hid
      report := fun s s' n hs => hK.edit _ _ (.report n) hs trivial }
  have hbegin : E ⟨d.pool.arena, d.notes⟩ ⟨d'.pool.arena, d'.notes⟩ := h
  have hrun := Kernel.agree_execute k hE hargs g hbegin
  exact Matches.on _ _ hrun (fun _ _ _ _ hs => hs) fun _ _ _ _ hs => hs

theorem agree_launch (hK : Veil B K) (h : K d d') (k : Kernel) {args : List LaunchArg}
    (hargs : ∀ arg ∈ args, ∀ id, arg.block = some id → B id) :
    Agree K (launch k args d) (launch k args d') := by
  refine (hK.agree_call h .launch).bind fun _ d₁ d₁' h₁ => ?_
  refine (Agree.lift h₁ (k.checkArgs args)).bind fun _ d₂ d₂' h₂ => ?_
  refine (Agree.lift h₂ (k.grid args)).bind fun g d₃ d₃' h₃ => ?_
  exact (hK.agree_execute h₃ k hargs g).bind fun _ d₄ d₄' h₄ => .ok g h₄

end Veil

end Device

/-! ### Workspaces -/

namespace Workspace

variable {w v : Workspace} {s : SlotId} {id : BlockId}

/-- A slot has the block. -/
def Owns (w : Workspace) (id : BlockId) : Prop := ∃ s, w.table.block? s = some id

/-- Related workspaces have the same host memory and answer calls in the same way. The second one
has all programs of the first one, and all slots of the first one that have device memory, with the
same contents. They stay related if something is done to such a slot on both sides. -/
structure Veil (R : Workspace → Workspace → Prop) : Prop where
  /-- host memory is the same -/
  hosts : ∀ w v, R w v → v.hosts = w.hosts
  /-- the devices are the same target -/
  target : ∀ w v, R w v → v.device.target = w.device.target
  /-- the same calls fail -/
  faults : ∀ w v, R w v → v.device.faults = w.device.faults
  /-- as many calls were counted -/
  tally : ∀ w v, R w v → v.device.tally = w.device.tally
  /-- programs are found -/
  program : ∀ w v key p, R w v → w.machine.context.program? key = some p →
    v.machine.context.program? key = some p
  /-- slots with device memory are the same -/
  slot : ∀ w v s id, R w v → w.table.block? s = some id → v.table.get s = w.table.get s
  /-- their blocks are the same -/
  block : ∀ w v id, R w v → w.Owns id → v.pool.arena.get? id = w.pool.arena.get? id
  /-- their blocks may be written -/
  edit : ∀ w v (e : Device.Edit), R w v → e.Within w.Owns →
    R (w.withDevice (e.apply w.device)) (v.withDevice (e.apply v.device))
  /-- the buffers in them may change -/
  setHost : ∀ w v s id h, R w v → w.table.block? s = some id → h.type = (w.host s).type →
    h.len = (w.host s).len → R (w.setHost s h) (v.setHost s h)
  /-- they may note that they agree with their buffers -/
  setSynced : ∀ w v s id n, R w v → w.table.block? s = some id →
    R (w.setSlot s { w.table.get s with synced := some n })
      (v.setSlot s { v.table.get s with synced := some n })

/-- There is nothing to do for a slot that has a block. -/
theorem ensureAllocated_of_block? (h : w.table.block? s = some id) :
    ensureAllocated s w = (.ok false, w) := by
  rw [ensureAllocated_apply, if_pos (isAllocated_iff.mpr ⟨id, h⟩)]

namespace Veil

variable {R : Workspace → Workspace → Prop}

/-- The devices of related workspaces are related. -/
theorem device (hR : Veil R) (w v : Workspace) :
    Device.Veil w.Owns fun d d' => R (w.withDevice d) (v.withDevice d') where
  faults _ _ h := hR.faults _ _ h
  tally _ _ h := hR.tally _ _ h
  block _ _ id h hid := hR.block _ _ id h hid
  edit _ _ e h he := hR.edit _ _ e h he

theorem block? (hR : Veil R) (h : R w v) (hs : w.table.block? s = some id) :
    v.table.block? s = some id := by
  rw [SlotTable.block?, hR.slot w v s id h hs]
  exact hs

theorem host (hR : Veil R) (h : R w v) (hs : w.table.block? s = some id) :
    v.host s = w.host s := by
  rw [Workspace.host, Workspace.host, hR.slot w v s id h hs]
  exact congrArg (HostMemory.get · _) (hR.hosts w v h)

theorem isStale (hR : Veil R) (h : R w v) (hs : w.table.block? s = some id) :
    v.isStale s = w.isStale s := by
  rw [Workspace.isStale, Workspace.isStale, hR.host h hs, hR.slot w v s id h hs]

theorem agree_onDevice {α : Type} {m : Step DeviceError Device α}
    (hm : Agree (fun d d' => R (w.withDevice d) (v.withDevice d')) (m w.device) (m v.device)) :
    Agree R (onDevice m w) (onDevice m v) := by
  rw [onDevice_apply, onDevice_apply]
  rcases hd : m w.device with ⟨r, d⟩
  rcases hd' : m v.device with ⟨r', d'⟩
  rw [hd, hd'] at hm
  cases hm with
  | ok h => exact Matches.ok h
  | error h => exact Matches.error h

theorem agree_upload (hR : Veil R) (h : R w v) (hs : w.table.block? s = some id) :
    Agree R (upload s w) (upload s v) := by
  obtain ⟨a, ha, hid⟩ := block?_eq_some.mp hs
  have hdevice : R (w.withDevice w.device) (v.withDevice v.device) := h
  have hcopy := (hR.device w v).agree_upload hdevice hid ⟨s, hs⟩ (w.host s).bytes
  rw [upload_apply, upload_apply, ensureAllocated_of_block? hs,
    ensureAllocated_of_block? (hR.block? h hs)]
  dsimp only
  rw [hR.slot w v s id h hs, hR.host h hs, ha]
  dsimp only
  rcases hd : Device.upload a (w.host s).bytes w.device with ⟨r, d⟩
  rcases hd' : Device.upload a (w.host s).bytes v.device with ⟨r', d'⟩
  rw [hd, hd'] at hcopy
  cases hcopy with
  | error h₁ =>
    obtain ⟨rfl, h₁⟩ := h₁
    exact .error _ h₁
  | ok h₁ => exact .ok _ (hR.setSynced (w.withDevice d) (v.withDevice d') s id _ h₁.2 hs)

theorem agree_download (hR : Veil R) (h : R w v) (hs : w.table.block? s = some id) :
    Agree R (download s w) (download s v) := by
  obtain ⟨a, ha, hid⟩ := block?_eq_some.mp hs
  have hdevice : R (w.withDevice w.device) (v.withDevice v.device) := h
  have hcopy := (hR.device w v).agree_download hdevice hid ⟨s, hs⟩ (w.host s).touch.bytes.size
  rw [download_apply, download_apply, hR.slot w v s id h hs, hR.host h hs, ha]
  dsimp only
  rcases hd : Device.download a (w.host s).touch.bytes.size w.device with ⟨r, d⟩
  rcases hd' : Device.download a (w.host s).touch.bytes.size v.device with ⟨r', d'⟩
  rw [hd, hd'] at hcopy
  cases hcopy with
  | error h₁ =>
    obtain ⟨rfl, h₁⟩ := h₁
    exact .error _ (hR.setHost (w.withDevice d) (v.withDevice d') s id _ h₁ hs rfl rfl)
  | ok h₁ =>
    obtain ⟨rfl, h₁⟩ := h₁
    refine .ok _ (hR.setSynced _ _ s id _ (hR.setHost (w.withDevice d) (v.withDevice d') s id _ h₁
      hs ?_ ?_) hs) <;> rfl

/-- What is done behind one veil may be done behind another one. -/
theorem comp {S : Workspace → Workspace → Prop} (hR : Veil R) (hS : Veil S) :
    Veil fun w v => ∃ w₁, R w w₁ ∧ S w₁ v where
  hosts := by
    rintro w v ⟨w₁, h, h'⟩
    exact (hS.hosts w₁ v h').trans (hR.hosts w w₁ h)
  target := by
    rintro w v ⟨w₁, h, h'⟩
    exact (hS.target w₁ v h').trans (hR.target w w₁ h)
  faults := by
    rintro w v ⟨w₁, h, h'⟩
    exact (hS.faults w₁ v h').trans (hR.faults w w₁ h)
  tally := by
    rintro w v ⟨w₁, h, h'⟩
    exact (hS.tally w₁ v h').trans (hR.tally w w₁ h)
  program := by
    rintro w v key p ⟨w₁, h, h'⟩ hp
    exact hS.program w₁ v key p h' (hR.program w w₁ key p h hp)
  slot := by
    rintro w v s id ⟨w₁, h, h'⟩ hs
    exact (hS.slot w₁ v s id h' (hR.block? h hs)).trans (hR.slot w w₁ s id h hs)
  block := by
    rintro w v id ⟨w₁, h, h'⟩ ⟨s, hs⟩
    exact (hS.block w₁ v id h' ⟨s, hR.block? h hs⟩).trans (hR.block w w₁ id h ⟨s, hs⟩)
  edit := by
    rintro w v e ⟨w₁, h, h'⟩ he
    refine ⟨_, hR.edit w w₁ e h he, hS.edit w₁ v e h' ?_⟩
    cases e with
    | patch id offset xs =>
      obtain ⟨s, hs⟩ := he
      exact ⟨s, hR.block? h hs⟩
    | count c => trivial
    | report n => trivial
  setHost := by
    rintro w v s id b ⟨w₁, h, h'⟩ hs ht hl
    refine ⟨_, hR.setHost w w₁ s id b h hs ht hl, hS.setHost w₁ v s id b h' (hR.block? h hs) ?_ ?_⟩
    · rw [hR.host h hs, ht]
    · rw [hR.host h hs, hl]
  setSynced := by
    rintro w v s id n ⟨w₁, h, h'⟩ hs
    exact ⟨_, hR.setSynced w w₁ s id n h hs, hS.setSynced w₁ v s id n h' (hR.block? h hs)⟩

end Veil

end Workspace

end Offload
