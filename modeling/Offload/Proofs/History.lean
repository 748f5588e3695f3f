import Offload.Proofs.System

/-!
# Histories

A history is what was done to a system since the beginning, when nobody had any slots: buffers
were made and written, bound and exchanged, copied back and forth, released, and given to
kernels. Any of the copies may have failed, and any of the requests for memory.

* `System.Operation` — one thing that is done, by a user or to a device.
* `System.Run` — a history with the state that it leads to.
* `System.deviceBytes_of_not_stale` — a slot that is not stale agrees with its buffer, unless a
  kernel wrote it after the last copy.
* `System.tables_of_run` — slots and buffers lead to each other, and the room of a slot is room
  for its buffer.
-/

namespace Offload

namespace System

variable {ι δ : Type}

/-- Something that is done to a system. -/
inductive Operation (ι δ : Type) where
  /-- somebody makes or writes a host buffer -/
  | host (a : HostAction)
  /-- a user binds a buffer -/
  | bind (u : ι) (h : HostId)
  /-- a user makes room for a slot -/
  | allocate (u : ι) (s : SlotId)
  /-- a user copies a slot to the device -/
  | upload (u : ι) (s : SlotId)
  /-- a user copies a slot to the host -/
  | download (u : ι) (s : SlotId)
  /-- a user exchanges a buffer -/
  | rebind (u : ι) (old new : HostId)
  /-- a user gives up the memory of a slot -/
  | release (u : ι) (s : SlotId)
  /-- a user gives up the memory of all slots -/
  | releaseAll (u : ι)
  /-- a kernel is launched on a device, whoever the arguments belong to -/
  | launch (d : δ) (k : Kernel) (args : List LaunchArg)
  /-- a device gives back the memory that its pool keeps -/
  | reset (d : δ)
  /-- from now on other calls of a device fail, and its memory is limited in another way -/
  | configure (d : δ) (faults : Call → Nat → Bool) (capacity : Option Nat)

variable [DecidableEq ι] [DecidableEq δ]

/-- A step on the slots of a user. -/
def onWorkspace {α : Type} (u : ι) (m : Step DeviceError Workspace α) :
    Step DeviceError (System ι δ) Unit := fun f =>
  ((m (f.workspace u)).1.map fun _ => (), f.setWorkspace u (m (f.workspace u)).2)

/-- A step on a device. -/
def onDevice {α : Type} (d : δ) (m : Step DeviceError Device α) :
    Step DeviceError (System ι δ) Unit := fun f =>
  ((m (f.context d).device).1.map fun _ => (), f.setDevice d (m (f.context d).device).2)

namespace Operation

/-- What is done, with its outcome. -/
def apply : Operation ι δ → Step DeviceError (System ι δ) Unit
  | host a => modify fun f => f.setHosts (a.apply f.hosts)
  | bind u h => onWorkspace u (modify fun w => { w with table := (w.table.bind h).2 })
  | allocate u s => onWorkspace u (Workspace.ensureAllocated s)
  | upload u s => onWorkspace u (Workspace.upload s)
  | download u s => onWorkspace u (Workspace.download s)
  | rebind u old new => onWorkspace u (Workspace.rebind old new)
  | release u s => onWorkspace u (modify (·.release s))
  | releaseAll u => onWorkspace u (modify Workspace.releaseAll)
  | launch d k args => onDevice d (Device.launch k args)
  | reset d => onDevice d Device.reset
  | configure d faults capacity => onDevice d (modify (·.reconfigure faults capacity))

/-- The buffers that are passed were made. -/
def Valid (f : System ι δ) : Operation ι δ → Prop
  | bind _ h | rebind _ _ h => f.hosts.Has h
  | host _ | allocate _ _ | upload _ _ | download _ _ | release _ _ | releaseAll _ | launch _ _ _
  | reset _ | configure _ _ _ => True

/-- A kernel runs that was given the memory of a slot to write. -/
def Writes (f : System ι δ) (u : ι) (s : SlotId) : Operation ι δ → Prop
  | launch d k args => f.home u = d ∧ ∃ id, (f.table u).block? s = some id ∧
      (f.context d).device.Accepts k args ∧ k.Writes args id
  | _ => False

/-- A slot is copied, one way or the other. -/
def Copies (u : ι) (s : SlotId) (o : Operation ι δ) : Prop :=
  o = upload u s ∨ o = download u s

variable {f : System ι δ} {u : ι} {s : SlotId}

theorem reset_inv (d : Device) :
    ((Device.reset d).2.pool = d.pool.trim) ∨ (Device.reset d).2.pool = d.pool := by
  rw [Device.reset, Step.bind_apply]
  rcases h : Device.call .reset d with ⟨e | u, d'⟩ <;> obtain ⟨hpool, -⟩ := Device.call_inv h
  · exact .inr hpool
  · exact .inl (congrArg Pool.trim hpool)

/-- What a user does keeps a system sound if it keeps their workspace sound. -/
theorem advances_onWorkspace {α : Type} {m : Step DeviceError Workspace α} (hf : f.Sound)
    (h : (m (f.workspace u)).2.Sound ∧
      Workspace.Advances (fun _ => False) (f.workspace u) (m (f.workspace u)).2)
    (W : ι → SlotId → Prop) :
    (onWorkspace u m f).2.Sound ∧ Advances W f (onWorkspace u m f).2 := by
  obtain ⟨hs, ha⟩ := hf.setWorkspace h.1 h.2
  exact ⟨hs, ha.mono fun _ _ h => h.2.elim⟩

/-- Whatever is done, the system stays sound, and only kernels make slots unclean. -/
theorem advances_apply {o : Operation ι δ} (hf : f.Sound) (ho : o.Valid f) :
    (o.apply f).2.Sound ∧ Advances (fun u s => o.Writes f u s) f (o.apply f).2 := by
  cases o with
  | host a =>
    obtain ⟨hs, ha⟩ := hf.setHosts (a.extends_apply f.hosts)
    exact ⟨hs, ha.mono nofun⟩
  | bind u h => exact advances_onWorkspace hf ((hf.workspace u).bind ho) _
  | allocate u s =>
    refine advances_onWorkspace hf ?_ _
    obtain ⟨h, -⟩ := Workspace.ensureAllocated_inv (hf.workspace u) rfl
    exact ⟨h.sound, h.advances⟩
  | upload u s =>
    refine advances_onWorkspace hf ?_ _
    obtain ⟨h, -⟩ := Workspace.upload_inv (hf.workspace u) rfl
    exact ⟨h.sound, h.advances⟩
  | download u s =>
    refine advances_onWorkspace hf ?_ _
    obtain ⟨h, -⟩ := Workspace.download_inv (hf.workspace u) rfl
    exact ⟨h.sound, h.advances⟩
  | rebind u old new => exact advances_onWorkspace hf ((hf.workspace u).rebind ho) _
  | release u s => exact advances_onWorkspace hf ((hf.workspace u).release s) _
  | releaseAll u => exact advances_onWorkspace hf (hf.workspace u).releaseAll _
  | launch d k args =>
    have hchanges := Device.launch_changes (f.context d).device k args
    obtain ⟨hs, ha⟩ := hf.setDevice (hchanges.sound (hf.pool d)) (fun id b hb => hchanges.lends hb)
      fun id b hid hb => hchanges.lends_of_not hb hid
    exact ⟨hs, ha⟩
  | reset d =>
    obtain ⟨hs, ha⟩ : (f.setDevice d (Device.reset (f.context d).device).2).Sound ∧
        Advances _ f (f.setDevice d (Device.reset (f.context d).device).2) := by
      refine hf.setDevice (B := fun _ => False) ?_ (fun id b hb => ⟨b, ?_, rfl⟩)
        fun id b _ hb => ?_ <;>
        rcases reset_inv (f.context d).device with h | h <;> rw [h]
      · exact Pool.trim_sound _
      · exact hf.pool d
      · exact (Pool.trim_keeps _).lends id b hb
      · exact hb
      · exact (Pool.trim_keeps _).lends id b hb
      · exact hb
    exact ⟨hs, ha.mono fun u s h => h.2.elim fun _ h => h.2⟩
  | configure d faults capacity =>
    obtain ⟨hs, ha⟩ := hf.setDevice (x := (f.context d).device.reconfigure faults capacity)
      (B := fun _ => False) ⟨(hf.pool d).kept, (hf.pool d).nodup⟩ (fun id b hb => ⟨b, hb, rfl⟩)
      fun id b _ hb => hb
    exact ⟨hs, ha.mono fun u s h => h.2.elim fun _ h => h.2⟩

/-- A slot that was copied is clean. -/
theorem clean_of_copies {o : Operation ι δ} (hf : f.Sound) (ho : o.Copies u s)
    (hok : (o.apply f).1 = .ok ()) : ((o.apply f).2.workspace u).Clean s := by
  rcases ho with rfl | rfl <;> rw [apply, onWorkspace] at hok ⊢ <;> intro _ <;>
    rw [workspace_setWorkspace_self]
  · rcases h : Workspace.upload s (f.workspace u) with ⟨e | u', w'⟩ <;> rw [h] at hok
    · cases hok
    · exact Workspace.deviceBytes_of_upload (hf.workspace u) h
  · rcases h : Workspace.download s (f.workspace u) with ⟨e | u', w'⟩ <;> rw [h] at hok
    · cases hok
    · exact Workspace.deviceBytes_of_download (hf.workspace u) h

end Operation

/-! ### Runs -/

/-- What was done, in which state, and how it ended. -/
structure Event (ι δ : Type) where
  /-- the state before -/
  before : System ι δ
  /-- what was done -/
  operation : Operation ι δ
  /-- how it ended -/
  outcome : Except DeviceError Unit

/-- Nobody has any slots, and no device memory is in use. Its limits and the calls that fail are
arbitrary, and there may be host buffers. -/
structure Start (f : System ι δ) : Prop where
  /-- the pools are empty -/
  pool : ∀ d, ∃ capacity keep, (f.context d).device.pool = .empty capacity keep
  /-- there are no slots -/
  table : ∀ u, f.table u = .empty

/-- What was done from `f₀` on led to a state; the last event comes first. -/
inductive Run (f₀ : System ι δ) : List (Event ι δ) → System ι δ → Prop
  /-- nothing was done -/
  | start : Run f₀ [] f₀
  /-- one more thing was done -/
  | step {es : List (Event ι δ)} {f : System ι δ} (o : Operation ι δ) (h : Run f₀ es f)
      (ho : o.Valid f) : Run f₀ (⟨f, o, (o.apply f).1⟩ :: es) (o.apply f).2

/-- A kernel ran that was given the memory of a slot to write, and the slot was not copied with
success since. -/
def WrittenSinceCopy (u : ι) (s : SlotId) : List (Event ι δ) → Prop
  | [] => False
  | e :: es => e.operation.Writes e.before u s ∨
      ¬ (e.operation.Copies u s ∧ e.outcome = .ok ()) ∧ WrittenSinceCopy u s es

variable {f₀ f f' : System ι δ} {es es' : List (Event ι δ)} {u : ι} {s : SlotId}

omit [DecidableEq ι] [DecidableEq δ] in
theorem Start.sound (h₀ : Start f₀) : f₀.Sound where
  pool d := by
    obtain ⟨capacity, keep, hd⟩ := h₀.pool d
    rw [hd]
    exact .empty capacity keep
  workspace v := by
    obtain ⟨capacity, keep, hd⟩ := h₀.pool (f₀.home v)
    have hp : (f₀.context (f₀.home v)).device.pool.Sound := hd ▸ .empty capacity keep
    rw [workspace, h₀.table v]
    exact .empty hp
  apart v v' s s' id _ h := by
    rw [h₀.table v, SlotTable.block?, SlotTable.get_of_not_has (Nat.not_lt_zero _)] at h
    cases h

/-- One user on the host, with some buffers that are not bound yet. -/
def single (buffers : List HostBuffer) : System Unit Unit where
  hosts := ⟨buffers.toArray⟩
  context _ := .ofDevice (.cpu none Pool.defaultKeep)
  home _ := ()
  table _ := .empty

theorem start_single {buffers : List HostBuffer} : Start (single buffers) where
  pool _ := ⟨none, _, rfl⟩
  table _ := rfl

/-- Every state that a history leads to is sound. -/
theorem Run.sound (h : Run f es f') (hf : f.Sound) : f'.Sound := by
  induction h with
  | start => exact hf
  | step o _ ho ih => exact (Operation.advances_apply ih ho).1

/-- Slots are never lost and keep their element type. -/
theorem Run.advances (h : Run f es f') (hf : f.Sound) : Advances (fun _ _ => True) f f' := by
  induction h with
  | start => exact .refl _ _
  | step o hrun ho ih =>
    exact ih.trans ((Operation.advances_apply (hrun.sound hf) ho).2.mono fun _ _ _ => trivial)

/-- Unless a kernel wrote a slot after the last copy, what it says about itself is true. -/
theorem Run.clean (h : Run f₀ es f) (h₀ : Start f₀) (hw : ¬ WrittenSinceCopy u s es) :
    (f.workspace u).Clean s := by
  induction h with
  | start =>
    refine Workspace.clean_of_not_has ?_
    rw [workspace, h₀.table u]
    exact Nat.not_lt_zero _
  | @step es f o hrun ho ih =>
    have hsound := hrun.sound h₀.sound
    rw [WrittenSinceCopy, not_or] at hw
    obtain ⟨hnot, hbefore⟩ := hw
    by_cases hcopy : o.Copies u s ∧ (o.apply f).1 = .ok ()
    · exact Operation.clean_of_copies hsound hcopy.1 hcopy.2
    · -- neither copied nor written: the slot is as clean as it was
      have hclean := ih fun hold => hbefore ⟨hcopy, hold⟩
      exact (Operation.advances_apply hsound ho).2.clean u s hnot hclean

/-- If device memory of a slot is not stale, and no kernel wrote it after it was copied last, it
holds the bytes of the buffer that is in the slot now. -/
theorem deviceBytes_of_not_stale (h₀ : Start f₀) (h : Run f₀ es f)
    (hstale : (f.workspace u).isStale s = false) (hw : ¬ WrittenSinceCopy u s es) :
    (f.workspace u).deviceBytes s = some ((f.workspace u).host s).bytes := by
  refine h.clean h₀ hw ?_
  rw [Workspace.isStale, Bool.or_eq_false_iff] at hstale
  simpa using hstale.2

/-- A buffer that was bound and copied is not stale, and device memory holds its bytes. -/
theorem deviceBytes_of_not_stale_uploaded :
    let f := ((Operation.upload () ⟨0⟩).apply ((Operation.bind () ⟨0⟩).apply
      (single [.filled (.scalar .uint8) 2 (7 : UInt8)])).2).2
    (f.workspace ()).isStale ⟨0⟩ = false ∧
      (f.workspace ()).deviceBytes ⟨0⟩ = some ((f.workspace ()).host ⟨0⟩).bytes := by
  have hrun := Run.step (.upload () ⟨0⟩) (.step (.bind () ⟨0⟩) .start
    (show 0 < (single [.filled (.scalar .uint8) 2 (7 : UInt8)]).hosts.buffers.size by decide))
    trivial
  refine ⟨rfl, deviceBytes_of_not_stale start_single hrun rfl ?_⟩
  rintro (h | ⟨-, h | ⟨-, h⟩⟩) <;> exact h

/-- In every state that a history leads to, slots and buffers lead to each other, every slot has
the element type that it will always have, the device memory of a slot is on loan and is room
for the buffer in the slot, and no copy is refused for its size. -/
theorem tables_of_run (h₀ : Start f₀) (h : Run f₀ es f) :
    (∀ u h s, (f.table u).slotOf? h = some s ↔
      (f.table u).Has s ∧ ((f.table u).get s).host = h) ∧
    (∀ u s s', (f.table u).Has s → (f.table u).Has s' →
      ((f.table u).get s).host = ((f.table u).get s').host → s = s') ∧
    (∀ u, (f.table u).boundHosts.Nodup ∧
      (f.table u).byHost.length = (f.table u).slots.size) ∧
    (∀ es' f', Run f es' f' → ∀ u s, (f.table u).Has s →
      (f'.table u).Has s ∧ ((f'.workspace u).host s).type = ((f.workspace u).host s).type) ∧
    (∀ u s a, ((f.table u).get s).allocation = some a →
      a.type = ((f.workspace u).host s).type ∧ a.len = ((f.workspace u).host s).len ∧
      ∃ id b, a.block = some id ∧ (f.workspace u).pool.Lends id b ∧
        b.size = ((f.workspace u).host s).byteLen) ∧
    ∀ u s expected actual,
      (Workspace.upload s (f.workspace u)).1 ≠ .error (.sizeMismatch expected actual) ∧
      (Workspace.download s (f.workspace u)).1 ≠ .error (.sizeMismatch expected actual) := by
  have hf := h.sound h₀.sound
  refine ⟨fun u => (hf.workspace u).table.slotOf?_iff,
    fun u s s' => (hf.workspace u).table.host_injective,
    fun u => ⟨(hf.workspace u).table.nodup, (hf.workspace u).table.length⟩,
    fun es' f' h' u s hs => ?_, fun u s a ha => ?_,
    fun u s n m => ⟨Workspace.upload_ne_sizeMismatch (hf.workspace u) s n m,
      Workspace.download_ne_sizeMismatch (hf.workspace u) s n m⟩⟩
  · have hadv := h'.advances hf
    exact ⟨hadv.has u s hs, hadv.type u s hs⟩
  · obtain ⟨htype, hlen, hloan⟩ := (hf.workspace u).room s a ha
    exact ⟨htype, hlen, hloan⟩

/-- After a chain of exchanges and back, the first buffer is in the slot again. -/
theorem tables_of_run_chain :
    let f := ((Operation.rebind () ⟨1⟩ ⟨0⟩).apply ((Operation.rebind () ⟨0⟩ ⟨1⟩).apply
      ((Operation.bind () ⟨0⟩).apply
        (single [.zeroed (.scalar .uint8) 2, .zeroed (.scalar .uint8) 3])).2).2).2
    (f.table ()).slotOf? ⟨0⟩ = some ⟨0⟩ ∧ (f.table ()).byHost.length = 1 := by
  intro f
  have hmade : ∀ {n : Nat}, n < 2 → n < (single [.zeroed (.scalar .uint8) 2,
      .zeroed (.scalar .uint8) 3]).hosts.buffers.size := fun h => h
  have hrun : Run (single [.zeroed (.scalar .uint8) 2, .zeroed (.scalar .uint8) 3]) _ f :=
    .step _ (.step _ (.step _ .start (hmade (by decide))) (hmade (by decide))) (hmade (by decide))
  obtain ⟨hslot, -, hsize, -⟩ := tables_of_run start_single hrun
  exact ⟨(hslot () ⟨0⟩ ⟨0⟩).mpr ⟨Nat.zero_lt_one, rfl⟩, (hsize ()).2⟩

end System

end Offload
