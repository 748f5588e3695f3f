import Offload.Proofs.Stopping

/-!
# Copies to the host that fail

A slot is copied to the host by opening its buffer for writing and letting the device fill it. The
buffer has a new version as soon as it is open, but the slot remembers a version only when the
copy is done. When the device refuses in between, no byte has changed on either side, and yet
every slot with the buffer is stale.

* `System.Reopened` — a buffer was opened for writing, and that is all.
* `System.reopened_of_failed_download` — this is all that is left of a copy that fails.
* `System.stale_of_failed_download` — what a slot says about itself after that, and what becomes
  of device memory when it is copied the one way or the other.
-/

namespace Offload

namespace Workspace

variable {w w' : Workspace} {s : SlotId} {x : HostId}

/-- A copy to the host that the device refuses has opened the buffer, and works on no slot. -/
theorem download_transfer_inv {reason : String}
    (h : download s w = (.error (.transfer reason), w')) :
    w.table.Has s ∧ w'.table = w.table ∧
      w'.hosts = w.hosts.set (w.table.get s).host (w.host s).touch ∧
      Confined (fun _ => False) (· = s) w w' := by
  rw [download_apply] at h
  rcases ha : (w.table.get s).allocation with _ | a <;> rw [ha] at h
  · cases h
  · have hs : w.table.Has s := by
      refine Classical.byContradiction fun hs => ?_
      rw [SlotTable.get_of_not_has hs] at ha
      cases ha
    have hcopy := Device.download_changes (fun _ => False) w.device a (w.host s).touch.bytes.size
    dsimp only at h
    rcases hd : Device.download a (w.host s).touch.bytes.size w.device with ⟨e | bytes, d⟩ <;>
      rw [hd] at h hcopy <;> cases h
    exact ⟨hs, rfl, rfl, (Confined.setHost (N := (· = s)) rfl _).trans
      (.withDevice (d := d) hcopy nofun)⟩

/-- Once a buffer was opened, all slots with it are stale. The others are so if they were. -/
theorem Sound.isStale_reopened (hw : w.Sound) (hx : w.hosts.Has x) (htable : w'.table = w.table)
    (hhosts : w'.hosts = w.hosts.set x (w.hosts.get x).touch) :
    w'.isStale s = true ↔ w.isStale s = true ∨ (w.table.get s).host = x := by
  by_cases hs : (w.table.get s).host = x
  · -- no slot remembers a version that is yet to come
    refine iff_of_true ?_ (.inr hs)
    have hhost : w'.host s = (w.host s).touch := by
      rw [host, htable, hs, host, hs]
      exact (congrArg (HostMemory.get · x) hhosts).trans (HostMemory.get_set_self _ hx)
    have hne : (w.table.get s).synced ≠ some ((w.host s).version + 1) := by
      intro hsync
      exact Nat.not_succ_le_self _ (hw.synced s _ hsync)
    rw [isStale, htable, hhost, Bool.or_eq_true, bne_iff_ne]
    exact .inr hne
  · have hhost : w'.host s = w.host s := by
      rw [host, htable]
      exact (congrArg (HostMemory.get · _) hhosts).trans (HostMemory.get_set_ne _ _ hs)
    rw [isStale, htable, hhost, ← isStale, or_iff_left hs]

end Workspace

/-- A kernel that stores a nine in the first place of its argument. -/
def Kernel.nine (id : KernelId) : Kernel :=
  ⟨id, "nine", [.buffer (.scalar .uint8) .write], ⟨[.fixed 1]⟩,
    fun _ => .store 0 (.scalar .uint8) 0 (9 : UInt8) (.orFail fun _ => .done)⟩

namespace System

variable {ι δ : Type}

/-- All that has changed from `f` to `f'` is that a buffer was opened for writing. -/
structure Reopened (x : HostId) (f f' : System ι δ) : Prop where
  /-- the buffer has another version -/
  hosts : f'.hosts = f.hosts.set x (f.hosts.get x).touch
  /-- all slots are as they were -/
  table : f'.table = f.table
  /-- device memory holds what it held -/
  memory : ∀ v t, (f'.workspace v).deviceBytes t = (f.workspace v).deviceBytes t

variable {f₀ f f' : System ι δ} {u v : ι} {s t : SlotId} {x : HostId}

namespace Reopened

theorem get (h : Reopened x f f') (hx : f.hosts.Has x) (y : HostId) :
    f'.hosts.get y = if y = x then (f.hosts.get y).touch else f.hosts.get y := by
  rw [h.hosts]
  split
  · rename_i hy
    subst hy
    exact HostMemory.get_set_self _ hx
  · rename_i hy
    exact HostMemory.get_set_ne _ _ hy

/-- Nobody's buffers hold other bytes. -/
theorem bytes (h : Reopened x f f') (hx : f.hosts.Has x) (v : ι) (t : SlotId) :
    ((f'.workspace v).host t).bytes = ((f.workspace v).host t).bytes := by
  rw [Workspace.host, Workspace.host, workspace, workspace, h.table, h.get hx]
  split <;> rfl

theorem isStale (h : Reopened x f f') (hf : f.Sound) (hx : f.hosts.Has x) :
    (f'.workspace v).isStale t = true ↔
      (f.workspace v).isStale t = true ∨ ((f.table v).get t).host = x :=
  (hf.workspace v).isStale_reopened hx (congrFun h.table v) h.hosts

end Reopened

variable [DecidableEq ι] [DecidableEq δ] {es : List (Event ι δ)} {reason : String}

/-- What a user does ends as it does for their workspace alone, which they put back. -/
theorem onWorkspace_inv {m : Step DeviceError Workspace Unit} {r : Except DeviceError Unit}
    (h : onWorkspace u m f = (r, f')) :
    m (f.workspace u) = (r, f'.workspace u) ∧ f' = f.setWorkspace u (f'.workspace u) := by
  rw [onWorkspace] at h
  rcases hm : m (f.workspace u) with ⟨e | ⟨⟩, w⟩ <;> rw [hm] at h <;> cases h <;>
    rw [workspace_setWorkspace_self] <;> exact ⟨rfl, rfl⟩

/-- A copy to the host that the device refuses has opened the buffer, and that is all. -/
theorem reopened_of_failed_download (hf : f.Sound)
    (h : (Operation.download u s).apply f = (.error (.transfer reason), f')) :
    Reopened ((f.table u).get s).host f f' ∧ f.hosts.Has ((f.table u).get s).host := by
  obtain ⟨hw, hf'⟩ := onWorkspace_inv h
  obtain ⟨hs, htable, hhosts, hconfined⟩ := Workspace.download_transfer_inv hw
  rw [hf']
  refine ⟨⟨hhosts, ?_, fun v t => hf.deviceBytes_setWorkspace hconfined fun _ => not_false⟩,
    (hf.workspace u).bound s hs⟩
  rw [setWorkspace, htable]
  exact Function.update_eq_self _ _

/-- A copy to the host failed. No byte has changed, on the host or on any device, and all slots
have the buffers that they had. The buffer in the slot was opened for writing, however. Therefore
the slot is stale, also if it was not, and so are all others with this buffer.

Device memory is not lost yet: another copy to the host fills the buffer with what device memory
held before the first. But a copy to the device, which is what a node makes for a slot that is
stale, puts the bytes there that the buffer holds still. -/
theorem stale_of_failed_download (h₀ : Start f₀) (h : Run f₀ es f)
    (hfails : (Operation.download u s).apply f = (.error (.transfer reason), f')) :
    (∀ y, f'.hosts.get y =
      if y = ((f.table u).get s).host then (f.hosts.get y).touch else f.hosts.get y) ∧
    f'.table = f.table ∧
    (∀ v t, (f'.workspace v).deviceBytes t = (f.workspace v).deviceBytes t) ∧
    (∀ v t, (f'.workspace v).isStale t = true ↔
      (f.workspace v).isStale t = true ∨ ((f.table v).get t).host = ((f.table u).get s).host) ∧
    (∀ f'', (Operation.download u s).apply f' = (.ok (), f'') →
      (f.workspace u).deviceBytes s = some ((f''.workspace u).host s).bytes) ∧
    ∀ f'', (Operation.upload u s).apply f' = (.ok (), f'') →
      (f''.workspace u).deviceBytes s = some ((f.workspace u).host s).bytes := by
  have hf := h.sound h₀.sound
  have hf' : f'.Sound := by
    have hstep := (h.step (.download u s) trivial).sound h₀.sound
    rwa [hfails] at hstep
  obtain ⟨hopen, hx⟩ := reopened_of_failed_download hf hfails
  refine ⟨hopen.get hx, hopen.table, hopen.memory, fun v t => hopen.isStale hf hx,
    fun f'' hagain => ?_, fun f'' hcopy => ?_⟩
  · obtain ⟨hw, -⟩ := onWorkspace_inv hagain
    have hagree := Workspace.deviceBytes_of_download (hf'.workspace u) hw
    obtain ⟨hserves, ⟨-, b, hb, -⟩ | ⟨⟨_, hr⟩, -⟩ | ⟨hr, -⟩⟩ :=
      Workspace.download_inv (hf'.workspace u) hw
    · rw [← hagree, hserves.bytes s b not_false hb, ← hb]
      exact (hopen.memory u s).symm
    all_goals cases hr
  · obtain ⟨hw, -⟩ := onWorkspace_inv hcopy
    have hagree := Workspace.deviceBytes_of_upload (hf'.workspace u) hw
    obtain ⟨hserves, hhosts, -⟩ := Workspace.upload_inv (hf'.workspace u) hw
    rw [hagree, hserves.host_eq hhosts, hopen.bytes hx]

/-- A byte was copied to the device, where a kernel has changed it. The first copy to the host is
going to fail. -/
def unread : System Unit Unit :=
  ((Operation.configure () (fun c n => c == .download && n == 1) none).apply
    ((Operation.launch () (.nine ⟨0⟩) [.buffer ⟨.scalar .uint8, 1, some ⟨0⟩⟩]).apply
      ((Operation.upload () ⟨0⟩).apply ((Operation.bind () ⟨0⟩).apply
        (single [.filled (.scalar .uint8) 1 (7 : UInt8)])).2).2).2).2

theorem run_unread :
    ∃ es, Run (single [.filled (.scalar .uint8) 1 (7 : UInt8)]) es unread :=
  ⟨_, .step _ (.step _ (.step (.upload () ⟨0⟩) (.step (.bind () ⟨0⟩) .start
    (show 0 < (single [.filled (.scalar .uint8) 1 (7 : UInt8)]).hosts.buffers.size by decide))
    trivial) trivial) trivial⟩

/-- The byte is not stale until the copy to the host fails. -/
theorem stale_of_failed_download_unread :
    let f := unread
    let f' := ((Operation.download () ⟨0⟩).apply f).2
    (Operation.download () ⟨0⟩).apply f = (.error (.transfer "injected d2h fault 1"), f') ∧
      (f.workspace ()).isStale ⟨0⟩ = false ∧ (f'.workspace ()).isStale ⟨0⟩ = true := by
  intro f f'
  have hfails : (Operation.download () ⟨0⟩).apply f =
      (.error (.transfer "injected d2h fault 1"), f') := Prod.ext (by decide +kernel) rfl
  obtain ⟨es, hrun⟩ := run_unread
  obtain ⟨-, -, -, hstale, -⟩ := stale_of_failed_download start_single hrun hfails
  exact ⟨hfails, by decide, (hstale () ⟨0⟩).mpr (.inr rfl)⟩

/-- A slot that a kernel wrote is not stale until a copy to the host fails. After that it is stale,
and the next copy to the device puts an end to what the kernel wrote. -/
theorem failed_download_loses_result :
    let f := unread
    let f' := ((Operation.download () ⟨0⟩).apply f).2
    let f'' := ((Operation.upload () ⟨0⟩).apply f').2
    (∃ f₀ es, Start f₀ ∧ Run f₀ es f) ∧
      ((Operation.download () ⟨0⟩).apply f).1 = .error (.transfer "injected d2h fault 1") ∧
      (f.workspace ()).isStale ⟨0⟩ = false ∧ (f.workspace ()).deviceBytes ⟨0⟩ = some #[9] ∧
      (f'.workspace ()).isStale ⟨0⟩ = true ∧ (f'.workspace ()).deviceBytes ⟨0⟩ = some #[9] ∧
      (f''.workspace ()).deviceBytes ⟨0⟩ = some #[7] := by
  intro f f' f''
  obtain ⟨es, hrun⟩ := run_unread
  exact ⟨⟨_, es, start_single, hrun⟩, by decide +kernel, by decide +kernel,
    by decide +kernel, by decide +kernel, by decide +kernel, by decide +kernel⟩

end System

end Offload
