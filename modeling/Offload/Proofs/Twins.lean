import Offload.Proofs.Progress

/-!
# Workspaces with the same past as far as it matters

Two workspaces have the same buffers in the same slots and the same contents in host memory, and
what device memory holds is known to be the same for some slots. Nothing is known of the others,
which may have memory in the one and none in the other, nor of versions.

Each step of a slot table leads to two such workspaces again, and fails on both sides or on none,
unless a device fails or runs out of memory.

* `HostMemory.contents` — host memory without versions.
* `Workspace.Twins` — the relation; `D` is where device memory is the same.
* `Workspace.Denied` — a step was broken off by the device.
* `Workspace.concur_upload` — a copy makes device memory the same.
-/

namespace Offload

open Step

/-! ### Contents of host memory -/

/-- The buffer with its version forgotten. -/
def HostBuffer.contents (b : HostBuffer) : HostBuffer := { b with version := 0 }

namespace HostMemory

/-- What host memory holds, whatever the versions. -/
def contents (m : HostMemory) : HostMemory := ⟨m.buffers.map HostBuffer.contents⟩

variable {m m' : HostMemory}

theorem get_contents (m : HostMemory) (id : HostId) :
    m.contents.get id = (m.get id).contents := by
  simp only [get, contents, Array.getD_eq_getD_getElem?, Array.getElem?_map]
  rcases m.buffers[id.index]? with _ | b
  · rfl
  · rfl

theorem contents_set (m : HostMemory) (id : HostId) (b : HostBuffer) :
    (m.set id b).contents = m.contents.set id b.contents := by
  simp [set, contents]

theorem has_contents {id : HostId} : m.contents.Has id ↔ m.Has id := by
  simp [Has, contents]

/-- Where host memory holds the same, buffers do. -/
theorem get_of_contents (h : m'.contents = m.contents) (id : HostId) :
    (m'.get id).contents = (m.get id).contents := by
  rw [← get_contents, ← get_contents, h]

theorem has_of_contents (h : m'.contents = m.contents) {id : HostId} : m'.Has id ↔ m.Has id := by
  rw [← has_contents, h, has_contents]

end HostMemory

namespace Workspace

/-! ### Twins -/

/-- A workspace in the course of what began with `w₀`. -/
structure Leads (κ : KernelId → Kernel) (w₀ w : Workspace) : Prop where
  /-- the workspace is sound -/
  sound : w.Sound
  /-- programs are those of the kernels that they are filed under -/
  programs : w.machine.context.Faithful κ
  /-- the device has come from where it was -/
  device : w₀.device.Continues w.device
  /-- there are the same slots -/
  has : ∀ s, w.table.Has s ↔ w₀.table.Has s

/-- Two workspaces that have the same buffers in the same slots. Host memory holds the same on
either side, and so does device memory of the slots for which `D` holds. -/
structure Twins (κ : KernelId → Kernel) (w₀ w₀' : Workspace) (D : SlotId → Prop)
    (w w' : Workspace) : Prop where
  /-- the one side -/
  left : w₀.Leads κ w
  /-- the other side -/
  right : w₀'.Leads κ w'
  /-- the devices are of one kind -/
  target : w₀'.device.target = w₀.device.target
  /-- host memory holds the same -/
  hosts : w'.hosts.contents = w.hosts.contents
  /-- there are the same slots -/
  has : ∀ s, w'.table.Has s ↔ w.table.Has s
  /-- with the same buffers -/
  buffer : ∀ s, (w'.table.get s).host = (w.table.get s).host
  /-- device memory of some slots holds the same -/
  bytes : ∀ s, D s → ∃ b, w.deviceBytes s = some b ∧ w'.deviceBytes s = some b

/-- A call of the device has failed since `w₀`. -/
def Struck (w₀ w : Workspace) : Prop := ∃ c, Device.Fails c w₀.device w.device

/-- A step for a slot was broken off: a call of the device has failed since `w₀`, or there is no
room for the slot. -/
def Denied (w₀ : Workspace) (s : SlotId) (e : DeviceError) (w : Workspace) : Prop :=
  Struck w₀ w ∨ (∃ n n', e = .outOfMemory n n') ∧ w.Full s

/-- The errors are the same, and so are the contents of host memory. -/
def SameEnd (e e' : DeviceError) (w w' : Workspace) : Prop :=
  e' = e ∧ w'.hosts.contents = w.hosts.contents

variable {κ : KernelId → Kernel} {w₀ w₀' : Workspace} {D D' : SlotId → Prop} {s : SlotId}
  {w w' v v' : Workspace}

theorem Leads.progress {W : SlotId → Prop} (h : w₀.Leads κ w) (hp : Progress κ W w v) :
    w₀.Leads κ v := by
  obtain ⟨hs, hc, ha, hhas⟩ := hp h.sound h.programs
  exact ⟨hs, hc, h.device.trans ha.rules, fun s => (hhas s).trans (h.has s)⟩

/-- A call that fails now has failed since the beginning. -/
theorem Leads.struck {c : Call} (h : w₀.Leads κ w) (hf : Device.Fails c w.device v.device) :
    Struck w₀ v := ⟨c, hf.trans h.device (.refl _)⟩

namespace Twins

/-- Buffers in slots have the same contents. -/
theorem host (h : Twins κ w₀ w₀' D w w') (s : SlotId) :
    (w'.host s).contents = (w.host s).contents := by
  rw [Workspace.host, Workspace.host, h.buffer]
  exact HostMemory.get_of_contents h.hosts _

theorem host_type (h : Twins κ w₀ w₀' D w w') (s : SlotId) :
    (w'.host s).type = (w.host s).type := by
  have ht := congrArg HostBuffer.type (h.host s)
  exact ht

theorem host_len (h : Twins κ w₀ w₀' D w w') (s : SlotId) : (w'.host s).len = (w.host s).len := by
  have hl := congrArg HostBuffer.len (h.host s)
  exact hl

theorem host_bytes (h : Twins κ w₀ w₀' D w w') (s : SlotId) :
    (w'.host s).bytes = (w.host s).bytes := by
  have hb := congrArg HostBuffer.bytes (h.host s)
  exact hb

theorem mono (h : Twins κ w₀ w₀' D w w') (hD : ∀ s, D' s → D s) : Twins κ w₀ w₀' D' w w' :=
  { h with bytes := fun s hs => h.bytes s (hD s hs) }

theorem device_target (h : Twins κ w₀ w₀' D w w') : w'.device.target = w.device.target :=
  h.right.device.target.trans (h.target.trans h.left.device.target.symm)

/-- After something was done for slots on either side. -/
theorem serves {T T' W W' : SlotId → Prop} (h : Twins κ w₀ w₀' D w w') (hl : Serves T w v)
    (hr : Serves T' w' v') (hpl : Progress κ W w v) (hpr : Progress κ W' w' v')
    (hm : v'.hosts.contents = v.hosts.contents)
    (hb : ∀ s, D' s → ∃ b, v.deviceBytes s = some b ∧ v'.deviceBytes s = some b) :
    Twins κ w₀ w₀' D' v v' where
  left := h.left.progress hpl
  right := h.right.progress hpr
  target := h.target
  hosts := hm
  has s := (hr.has s).trans ((h.has s).trans (hl.has s).symm)
  buffer s := (hr.host s).trans ((h.buffer s).trans (hl.host s).symm)
  bytes := hb

/-- What is the same stays so while nothing is done for its slot. -/
theorem bytes_of_serves {T T' : SlotId → Prop} (h : Twins κ w₀ w₀' D w w') (hl : Serves T w v)
    (hr : Serves T' w' v') {s : SlotId} (hD : D s) (hT : ¬ T s) (hT' : ¬ T' s) :
    ∃ b, v.deviceBytes s = some b ∧ v'.deviceBytes s = some b := by
  obtain ⟨b, hb, hb'⟩ := h.bytes s hD
  exact ⟨b, hl.bytes s b hT hb, hr.bytes s b hT' hb'⟩

/-- After something was done on either side that leaves slots, buffers and memory alone. -/
theorem of_pool {W W' : SlotId → Prop} (h : Twins κ w₀ w₀' D w w') (hpl : Progress κ W w v)
    (hpr : Progress κ W' w' v') (hl : v.hosts = w.hosts ∧ v.table = w.table ∧ v.pool = w.pool)
    (hr : v'.hosts = w'.hosts ∧ v'.table = w'.table ∧ v'.pool = w'.pool) :
    Twins κ w₀ w₀' D v v' where
  left := h.left.progress hpl
  right := h.right.progress hpr
  target := h.target
  hosts := by rw [hl.1, hr.1, h.hosts]
  has s := by rw [hl.2.1, hr.2.1, h.has]
  buffer s := by rw [hl.2.1, hr.2.1, h.buffer]
  bytes s hs := by
    obtain ⟨b, hb, hb'⟩ := h.bytes s hs
    refine ⟨b, ?_, ?_⟩
    · rw [deviceBytes, hl.2.1, hl.2.2]
      exact hb
    · rw [deviceBytes, hr.2.1, hr.2.2]
      exact hb'

end Twins

/-! ### Steps -/

/-- Making room changes nothing that is known. -/
theorem concur_ensureAllocated (h : Twins κ w₀ w₀' D w w') (s : SlotId) :
    Concur (Denied w₀ s) (Denied w₀' s) (fun _ _ v v' => Twins κ w₀ w₀' D v v') SameEnd
      (ensureAllocated s w) (ensureAllocated s w') := by
  have hpl := follows_ensureAllocated (κ := κ) (W := fun _ => False) s w
  have hpr := follows_ensureAllocated (κ := κ) (W := fun _ => False) s w'
  rcases hl : ensureAllocated s w with ⟨r, v⟩
  rcases hr : ensureAllocated s w' with ⟨r', v'⟩
  rw [hl] at hpl
  rw [hr] at hpr
  obtain ⟨hsl, hhl, ⟨u, rfl, -⟩ | ⟨⟨n, rfl⟩, hfull⟩⟩ := ensureAllocated_inv h.left.sound hl
  · obtain ⟨hsr, hhr, ⟨u', rfl, -⟩ | ⟨⟨n, rfl⟩, hfull⟩⟩ := ensureAllocated_inv h.right.sound hr
    · refine .ok (h.serves hsl hsr hpl hpr ?_ fun s' hs' =>
        h.bytes_of_serves hsl hsr hs' not_false not_false)
      rw [hhl, hhr, h.hosts]
    · exact .inr (.inl ⟨_, rfl, .inr ⟨⟨_, _, rfl⟩, hfull⟩⟩)
  · exact .inl ⟨_, rfl, .inr ⟨⟨_, _, rfl⟩, hfull⟩⟩

/-- A copy to the device that is not broken off succeeds. -/
theorem upload_of_not_denied {r : Except DeviceError Unit} (h : w₀.Leads κ w) (hs : w.table.Has s)
    (hr : upload s w = (r, v)) :
    Serves (· = s) w v ∧ v.hosts = w.hosts ∧
      (Broken (Denied w₀ s) (r, v) ∨ r = .ok () ∧ v.deviceBytes s = some (w.host s).bytes) := by
  obtain ⟨hserves, hhosts, hcases⟩ := upload_inv h.sound hr
  refine ⟨hserves, hhosts, ?_⟩
  rcases hcases with ⟨rfl, -, hb⟩ | ⟨⟨n, rfl⟩, hfull⟩ | ⟨⟨reason, rfl⟩, hfails⟩ | ⟨-, hnot⟩
  · exact .inr ⟨rfl, hb⟩
  · exact .inl ⟨_, rfl, .inr ⟨⟨_, _, rfl⟩, hfull⟩⟩
  · exact .inl ⟨_, rfl, .inl (h.struck hfails)⟩
  · exact absurd hs hnot

/-- After a copy to the device, device memory of the slot is the same whatever it was before. -/
theorem concur_upload (h : Twins κ w₀ w₀' D w w') (hs : w.table.Has s) :
    Concur (Denied w₀ s) (Denied w₀' s)
      (fun _ _ v v' => Twins κ w₀ w₀' (fun s' => D s' ∨ s' = s) v v') SameEnd
      (upload s w) (upload s w') := by
  have hpl := follows_upload (κ := κ) (W := fun _ => False) s w
  have hpr := follows_upload (κ := κ) (W := fun _ => False) s w'
  rcases hl : upload s w with ⟨r, v⟩
  rcases hr : upload s w' with ⟨r', v'⟩
  rw [hl] at hpl
  rw [hr] at hpr
  obtain ⟨hsl, hhl, hbroken | ⟨rfl, hbl⟩⟩ := upload_of_not_denied h.left hs hl
  · exact .inl hbroken
  · obtain ⟨hsr, hhr, hbroken | ⟨rfl, hbr⟩⟩ := upload_of_not_denied h.right ((h.has s).mpr hs) hr
    · exact .inr (.inl hbroken)
    · refine .ok (h.serves hsl hsr hpl hpr ?_ ?_)
      · rw [hhl, hhr, h.hosts]
      · intro s' hs'
        by_cases he : s' = s
        · exact he ▸ ⟨_, hbl, hbr.trans (congrArg some (h.host_bytes s))⟩
        · exact h.bytes_of_serves hsl hsr (hs'.resolve_right he) he he

/-- A copy from the device that is not broken off fills the buffer. -/
theorem download_of_not_denied {r : Except DeviceError Unit} {b : Bytes} (h : w₀.Leads κ w)
    (hb : w.deviceBytes s = some b) (hr : download s w = (r, v)) :
    Serves (fun _ => False) w v ∧
      (Broken (Denied w₀ s) (r, v) ∨ r = .ok () ∧
        v.hosts = w.hosts.set (w.table.get s).host ((w.host s).touch.patch 0 b.toList)) := by
  obtain ⟨hserves, hcases⟩ := download_inv h.sound hr
  refine ⟨hserves, ?_⟩
  rcases hcases with ⟨rfl, b', hb', -, hhosts⟩ | ⟨⟨reason, rfl⟩, hfails, -⟩ | ⟨-, hnone, -⟩
  · obtain rfl : b = b' := Option.some.inj (hb.symm.trans hb')
    exact .inr ⟨rfl, hhosts⟩
  · exact .inl ⟨_, rfl, .inl (h.struck hfails)⟩
  · rw [deviceBytes, hnone] at hb
    cases hb

/-- A copy from the device is the same on either side where device memory is. -/
theorem concur_download (h : Twins κ w₀ w₀' D w w') (hs : D s) :
    Concur (Denied w₀ s) (Denied w₀' s) (fun _ _ v v' => Twins κ w₀ w₀' D v v') SameEnd
      (download s w) (download s w') := by
  have hpl := follows_download (κ := κ) (W := fun _ => False) s w
  have hpr := follows_download (κ := κ) (W := fun _ => False) s w'
  obtain ⟨b, hb, hb'⟩ := h.bytes s hs
  rcases hl : download s w with ⟨r, v⟩
  rcases hr : download s w' with ⟨r', v'⟩
  rw [hl] at hpl
  rw [hr] at hpr
  obtain ⟨hsl, hbroken | ⟨rfl, hhl⟩⟩ := download_of_not_denied h.left hb hl
  · exact .inl hbroken
  · obtain ⟨hsr, hbroken | ⟨rfl, hhr⟩⟩ := download_of_not_denied h.right hb' hr
    · exact .inr (.inl hbroken)
    · refine .ok (h.serves hsl hsr hpl hpr ?_ fun s' hs' =>
        h.bytes_of_serves hsl hsr hs' not_false not_false)
      -- the same bytes are written over buffers with the same contents
      have hwritten : ((w'.host s).touch.patch 0 b.toList).contents =
          ((w.host s).touch.patch 0 b.toList).contents :=
        congrArg (·.patch 0 b.toList) (h.host s)
      rw [hhl, hhr, HostMemory.contents_set, HostMemory.contents_set, h.hosts, h.buffer, hwritten]

/-- Waiting for the device changes nothing. -/
theorem concur_synchronize (h : Twins κ w₀ w₀' D w w') :
    Concur (fun _ v => Struck w₀ v) (fun _ v => Struck w₀' v)
      (fun _ _ v v' => Twins κ w₀ w₀' D v v') SameEnd
      (onDevice Device.synchronize w) (onDevice Device.synchronize w') := by
  have hpl := follows_synchronize (κ := κ) (W := fun _ => False) w
  have hpr := follows_synchronize (κ := κ) (W := fun _ => False) w'
  rw [onDevice_apply, onDevice_apply] at *
  rcases hl : Device.synchronize w.device with ⟨r, d⟩
  rcases hr : Device.synchronize w'.device with ⟨r', d'⟩
  rw [hl] at hpl
  rw [hr] at hpr
  obtain ⟨hdl, rfl | ⟨⟨reason, rfl⟩, hfails⟩⟩ := Device.call_inv hl
  · obtain ⟨hdr, rfl | ⟨⟨reason, rfl⟩, hfails⟩⟩ := Device.call_inv hr
    · exact .ok (h.of_pool hpl hpr ⟨rfl, rfl, hdl⟩ ⟨rfl, rfl, hdr⟩)
    · exact .inr (.inl ⟨_, rfl, h.right.struck hfails⟩)
  · exact .inl ⟨_, rfl, h.left.struck hfails⟩

/-- A kernel is compiled on both sides or on none. -/
theorem concur_compile {k : Kernel} (h : Twins κ w₀ w₀' D w w') (hk : κ k.id = k) :
    Concur (fun _ v => Struck w₀ v) (fun _ v => Struck w₀' v)
      (fun p p' v v' => (p.kernel = k ∧ p'.kernel = k) ∧ Twins κ w₀ w₀' D v v') SameEnd
      (onContext (Context.compile k) w) (onContext (Context.compile k) w') := by
  have hpl := follows_compile (W := fun _ => False) hk w
  have hpr := follows_compile (W := fun _ => False) hk w'
  rw [onContext, on_apply, on_apply] at *
  rcases hl : Context.compile k w.machine.context with ⟨r, c⟩
  rcases hr : Context.compile k w'.machine.context with ⟨r', c'⟩
  rw [hl] at hpl
  rw [hr] at hpr
  obtain ⟨-, hdl, hcl⟩ := Context.compile_inv h.left.programs hk hl
  obtain ⟨-, hdr, hcr⟩ := Context.compile_inv h.right.programs hk hr
  have htarget : w'.machine.context.device.target = w.machine.context.device.target :=
    h.device_target
  rw [htarget] at hcr
  rcases hcl with ⟨p, rfl, hp, hc⟩ | ⟨e, rfl, hc⟩
  · obtain ⟨p', rfl, hp', -⟩ | ⟨e', -, hc'⟩ := hcr
    · exact .ok ⟨⟨hp, hp'⟩, h.of_pool hpl hpr ⟨rfl, rfl, congrArg Device.pool hdl⟩
        ⟨rfl, rfl, congrArg Device.pool hdr⟩⟩
    · rw [hc] at hc'
      cases hc'
  · obtain ⟨p', -, -, hc'⟩ | ⟨e', rfl, hc'⟩ := hcr
    · rw [hc] at hc'
      cases hc'
    · rw [hc] at hc'
      cases hc'
      exact .error ⟨rfl, h.hosts⟩

end Workspace

end Offload
