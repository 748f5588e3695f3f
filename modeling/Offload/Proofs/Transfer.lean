import Offload.Proofs.Workspace

/-!
# Steps of a slot table

What each step of a slot table comes to in a sound workspace: it is refused for want of memory or
by the device, or it does what it is for. No copy is ever refused for its size.

* `Workspace.ensureAllocated_inv`, `Workspace.upload_inv`, `Workspace.download_inv` — what a
  step returns and what it leaves behind.
* `Workspace.Serves` — what a step on one slot does to all of them.
* `Workspace.Serviced` — a relation that leaves room for what is done about the device memory of a
  slot; it leaves room for copies then.
* `Workspace.upload_ne_sizeMismatch`, `Workspace.download_ne_sizeMismatch` — no copy is refused
  for its size.
-/

namespace Offload

/-- What is written over the beginning of an array of bytes stands there. -/
theorem Bytes.extract_overwrite {b xs : Bytes} (h : xs.size ≤ b.size) :
    (b.overwrite 0 xs.toList).extract 0 xs.size = xs := by
  apply Array.ext
  · simp only [Array.size_extract, size_overwrite]
    omega
  · intro i h₁ h₂
    have hmem := getD_overwrite_of_mem b 0 xs.toList (by simpa using h) (k := i) (by simpa using h₂)
    have hi : i < (b.overwrite 0 xs.toList).size := by rw [size_overwrite]; omega
    rw [Nat.zero_add, Array.getD_eq_getD_getElem?, Array.getElem?_eq_getElem hi] at hmem
    simpa using hmem

/-- A block that was filled holds what was written. -/
theorem Block.content_patch {b : Block} {xs : Bytes} (h : xs.size = b.size) :
    (b.patch 0 xs.toList).content = xs := by
  have hle : xs.size ≤ b.cells.size := by
    rw [h, b.aligned]
    exact le_wordAligned b.size
  rw [content, size_patch, ← h]
  exact Bytes.extract_overwrite hle

/-- A host buffer that was filled holds what was written. -/
theorem HostBuffer.bytes_patch {h : HostBuffer} {xs : Bytes} (hs : xs.size = h.bytes.size) :
    (h.patch 0 xs.toList).bytes = xs := by
  have := Bytes.extract_overwrite (b := h.bytes) (Nat.le_of_eq hs)
  rw [hs, ← Bytes.size_overwrite h.bytes 0 xs.toList, Array.extract_size] at this
  exact this

theorem HostBuffer.size_bytes (h : HostBuffer) : h.bytes.size = h.byteLen := h.size_eq

/-- Only the last of two writes to a buffer counts. -/
theorem HostMemory.set_set (m : HostMemory) (id : HostId) (b b' : HostBuffer) :
    (m.set id b).set id b' = m.set id b' := by
  simp [set]

/-! ### Copies of a device -/

namespace Device

variable {d d' : Device} {a : Allocation} {id : BlockId} {b : Block}

/-- On the way from `d` to `d'` a call of a kind failed. -/
def Fails (c : Call) (d d' : Device) : Prop :=
  ∃ n, d.count c < n ∧ n ≤ d'.count c ∧ d.faults c n = true

/-- What failed at some time failed on the way. -/
theorem Fails.trans {c : Call} {d₀ d₁ d₂ d₃ : Device} (h₁ : d₀.Continues d₁) (h : Fails c d₁ d₂)
    (h₃ : d₂.Continues d₃) : Fails c d₀ d₃ := by
  obtain ⟨n, hlt, hle, hf⟩ := h
  exact ⟨n, Nat.lt_of_le_of_lt (h₁.count c) hlt, Nat.le_trans hle (h₃.count c),
    (congrFun (congrFun h₁.faults c) n).symm.trans hf⟩

/-- A call is let through, or it fails. -/
theorem call_inv {c : Call} {r : Except DeviceError Unit} (h : call c d = (r, d')) :
    d'.pool = d.pool ∧
      (r = .ok () ∨ (∃ reason, r = .error (.transfer reason)) ∧ Fails c d d') := by
  rw [call_apply] at h
  have hcount := count_counted c c d
  rw [if_pos rfl] at hcount
  split at h <;> rename_i hfault <;> cases h
  · exact ⟨rfl, .inr ⟨⟨_, rfl⟩, _, Nat.lt_succ_self _, Nat.le_of_eq hcount.symm, hfault⟩⟩
  · exact ⟨rfl, .inl rfl⟩

/-- Making room in a device is a request to its pool. -/
theorem allocate_of_alloc {t : ElementType} {len : Nat}
    {r : Except DeviceError BlockId} {p : Pool} (h : d.pool.alloc (t.bytes * len) true = (r, p)) :
    allocate t len d = (r.map fun id => ⟨t, len, some id⟩, { d with pool := p }) := by
  rw [allocate, onPool, Step.on_apply]
  simp only [Step.of, Pool.allocate, h]

/-- The block of an allocation on loan. -/
theorem raw_of_lends (hb : d.pool.Lends id b) (ha : a.block = some id) :
    d.pool.arena.raw a = .ok b := by
  rw [Arena.raw, ha, Option.bind_some, hb.1]

/-- A copy to the device either fails as a call or fills the block. -/
theorem upload_inv {src : Bytes} {r : Except DeviceError Unit} (hb : d.pool.Lends id b)
    (ha : a.block = some id) (hsrc : src.size = a.size) (h : upload a src d = (r, d')) :
    ((∃ reason, r = .error (.transfer reason)) ∧ Fails .upload d d' ∧ d'.pool = d.pool) ∨
      (r = .ok () ∧ d'.pool =
        { d.pool with arena := d.pool.arena.modify id (·.patch 0 src.toList) }) := by
  rw [upload, Step.bind_apply] at h
  rcases hc : call .upload d with ⟨rc, dc⟩
  obtain ⟨hpool, rfl | ⟨⟨reason, rfl⟩, hfails⟩⟩ := call_inv hc <;> rw [hc] at h
  · have hup : dc.pool.arena.upload a src =
        .ok (d.pool.arena.modify id (·.patch 0 src.toList)) := by
      rw [Arena.upload, Arena.checkSize, if_pos hsrc, hpool, raw_of_lends hb ha, ha]
      rfl
    dsimp only at h
    rw [poke, hup] at h
    cases h
    exact .inr ⟨rfl, by rw [withArena, hpool]⟩
  · cases h
    exact .inl ⟨⟨reason, rfl⟩, hfails, hpool⟩

/-- A copy from the device either fails as a call or returns what the block holds. -/
theorem download_inv {n : Nat} {r : Except DeviceError Bytes} (hb : d.pool.Lends id b)
    (ha : a.block = some id) (hn : n = a.size) (h : download a n d = (r, d')) :
    ((∃ reason, r = .error (.transfer reason)) ∧ Fails .download d d' ∧ d'.pool = d.pool) ∨
      (r = .ok b.content ∧ d'.pool = d.pool) := by
  rw [download, Step.bind_apply] at h
  rcases hc : call .download d with ⟨rc, dc⟩
  obtain ⟨hpool, rfl | ⟨⟨reason, rfl⟩, hfails⟩⟩ := call_inv hc <;> rw [hc] at h
  · have hdown : dc.pool.arena.download a n = .ok b.content := by
      rw [Arena.download, Arena.checkSize, if_pos hn, hpool, raw_of_lends hb ha]
      rfl
    have h' : (Except.ok b.content, dc) = (r, d') := by
      rw [← hdown]
      exact h
    cases h'
    exact .inr ⟨rfl, hpool⟩
  · cases h
    exact .inl ⟨⟨reason, rfl⟩, hfails, hpool⟩

end Device

namespace Workspace

variable {w w' : Workspace} {s s' : SlotId} {id : BlockId}

/-- The same workspace with the device in another state. -/
def withDevice (w : Workspace) (d : Device) : Workspace :=
  { w with machine := { w.machine with context := { w.machine.context with device := d } } }

theorem onDevice_apply {α : Type} (m : Step DeviceError Device α) (w : Workspace) :
    onDevice m w = ((m w.device).1, w.withDevice (m w.device).2) := rfl

/-! ### The device alone -/

/-- A sound workspace stays so while its blocks stay on loan with their sizes. -/
theorem Sound.withDevice {d : Device} (hw : w.Sound) (hp : d.pool.Sound)
    (hl : ∀ s id b, w.table.block? s = some id → w.pool.Lends id b →
      ∃ b', d.pool.Lends id b' ∧ b'.size = b.size) : (w.withDevice d).Sound :=
  hw.carry (.refl _) hp hl

/-- What is allowed when only the device changes: of the blocks on loan, only some of those of
slots hold something else. -/
theorem Sound.advances_withDevice {d : Device} {W : SlotId → Prop} {B : BlockId → Prop}
    (hw : w.Sound) (hr : w.device.Continues d) (hown : ∀ id, B id → ∃ s, w.table.block? s = some id)
    (hl : ∀ id b, ¬ B id → w.pool.Lends id b → d.pool.Lends id b)
    (hW : ∀ s id, w.table.block? s = some id → B id → W s ∨ (w.withDevice d).Clean s) :
    Advances W w (w.withDevice d) where
  hosts := .refl _
  rules := hr
  has _ h := h
  type _ _ := rfl
  origin s id h := .inl ⟨s, h⟩
  others id b hnot hb := by
    refine hl id b ?_ hb
    intro hB
    obtain ⟨s, hs⟩ := hown id hB
    exact hnot s hs
  clean s hs hc := by
    by_cases hB : ∃ id, w.table.block? s = some id ∧ B id
    · obtain ⟨id, hid, hB⟩ := hB
      exact (hW s id hid hB).elim (fun h => absurd h hs) fun h => h
    · exact hc.carry hw (.refl _) fun id b hid hb => hl id b (fun h => hB ⟨id, hid, h⟩) hb

/-- The pool did something for somebody else. -/
theorem Sound.withPool {d : Device} (hw : w.Sound) (hr : w.device.Continues d)
    (hp : d.pool.Sound) (hk : Pool.Keeps w.pool d.pool) (W : SlotId → Prop) :
    (w.withDevice d).Sound ∧ Advances W w (w.withDevice d) :=
  ⟨hw.withDevice hp fun _ id b _ hb => ⟨b, hk.lends id b hb, rfl⟩,
    hw.advances_withDevice hr (B := fun _ => False) nofun (fun id b _ => hk.lends id b)
      fun _ _ _ => nofun⟩

/-- The contents of blocks of slots were changed. -/
theorem Sound.withChanges {d : Device} {W : SlotId → Prop} {B : BlockId → Prop} (hw : w.Sound)
    (hd : Device.Changes B w.device d) (hown : ∀ id, B id → ∃ s, W s ∧ w.table.block? s = some id) :
    (w.withDevice d).Sound ∧ Advances W w (w.withDevice d) := by
  refine ⟨hw.withDevice (hd.sound hw.pool) fun _ id b _ hb => hd.lends hb,
    hw.advances_withDevice hd.continues ?_ (fun id b hB hb => hd.lends_of_not hb hB) ?_⟩
  · intro id hB
    obtain ⟨s, -, hs⟩ := hown id hB
    exact ⟨s, hs⟩
  · intro s id hid hB
    obtain ⟨s', hW, hs'⟩ := hown id hB
    exact .inl (hw.apart s s' id hid hs' ▸ hW)

/-! ### Steps that only serve a slot -/

/-- `w'` is `w` after something was done for the slots for which `T` holds: the buffers stay in
their slots, and device memory of the other slots holds what it held. -/
structure Serves (T : SlotId → Prop) (w w' : Workspace) : Prop where
  /-- the workspace is sound -/
  sound : w'.Sound
  /-- nothing was written by a kernel -/
  advances : Advances (fun _ => False) w w'
  /-- there are the same slots -/
  has : ∀ s, w'.table.Has s ↔ w.table.Has s
  /-- with the same buffers -/
  host : ∀ s, (w'.table.get s).host = (w.table.get s).host
  /-- device memory of other slots holds the same -/
  bytes : ∀ s b, ¬ T s → w.deviceBytes s = some b → w'.deviceBytes s = some b

namespace Serves

variable {T T' : SlotId → Prop} {w'' : Workspace}

theorem refl (T : SlotId → Prop) (hw : w.Sound) : Serves T w w :=
  ⟨hw, .refl _ w, fun _ => Iff.rfl, fun _ => rfl, fun _ _ _ h => h⟩

theorem trans (h : Serves T w w') (h' : Serves T w' w'') : Serves T w w'' where
  sound := h'.sound
  advances := h.advances.trans h'.advances
  has s := (h'.has s).trans (h.has s)
  host s := (h'.host s).trans (h.host s)
  bytes s b hs hb := h'.bytes s b hs (h.bytes s b hs hb)

theorem mono (h : Serves T w w') (hT : ∀ s, T s → T' s) : Serves T' w w' :=
  { h with bytes := fun s b hs => h.bytes s b (mt (hT s) hs) }

/-- Where nothing on the device has changed, no slot was served in particular. -/
theorem of_pool (h : Serves (· = s) w w') (hpool : w'.pool = w.pool)
    (hblock : w'.table.block? s = w.table.block? s) : Serves (fun _ => False) w w' := by
  refine { h with bytes := ?_ }
  intro s' b _ hb
  by_cases he : s' = s
  · rw [he, deviceBytes, hpool, hblock, ← deviceBytes, ← he]
    exact hb
  · exact h.bytes s' b he hb

/-- Where host memory is the same, buffers in slots are. -/
theorem host_eq (h : Serves T w w') (hhosts : w'.hosts = w.hosts) (s : SlotId) :
    w'.host s = w.host s := by
  rw [Workspace.host, Workspace.host, h.host]
  exact congrArg (HostMemory.get · _) hhosts

/-- Where the buffer of a slot was replaced, the slot has the new one. -/
theorem host_set {b : HostBuffer} (h : Serves T w w') (hw : w.Sound) (hs : w.table.Has s)
    (hhosts : w'.hosts = w.hosts.set (w.table.get s).host b) : w'.host s = b := by
  rw [Workspace.host, h.host]
  exact (congrArg (HostMemory.get · _) hhosts).trans (HostMemory.get_set_self _ (hw.bound s hs))

end Serves

/-- A step on one slot leaves alone what the others hold. -/
theorem Revises.bytes_other {x : Slot} {b : Bytes} (h : Revises s x w w') (hw : w.Sound)
    (hs' : s' ≠ s) (hb : w.deviceBytes s' = some b) : w'.deviceBytes s' = some b := by
  rcases h.get_cases s' with ⟨he, -⟩ | ⟨hne, hget⟩
  · exact absurd he hs'
  · have hblock : w'.table.block? s' = w.table.block? s' := by
      rw [SlotTable.block?, SlotTable.block?, hget]
    exact hw.deviceBytes_of_keeps hb hblock fun id b hid hb => h.lends_other hw hne hid hb

/-- A step on one slot that leaves its buffer there serves that slot. -/
theorem Revises.serves {x : Slot} (h : Revises s x w w') (hw : w.Sound)
    (hx : x.host = (w.table.get s).host) : Serves (· = s) w w' where
  sound := h.sound hw
  advances := h.advances hw _
  has := h.has
  host s' := by
    rcases h.get_cases s' with ⟨rfl, -, hget⟩ | ⟨-, hget⟩ <;> rw [hget]
    exact hx
  bytes _ _ hs' hb := h.bytes_other hw hs' hb

/-- When only the pool does something for others, every slot is as before. -/
theorem Sound.serves_withPool {d : Device} (hw : w.Sound) (hr : w.device.Continues d)
    (hp : d.pool.Sound) (hk : Pool.Keeps w.pool d.pool) :
    Serves (fun _ => False) w (w.withDevice d) := by
  obtain ⟨hs, ha⟩ := hw.withPool hr hp hk fun _ => False
  exact ⟨hs, ha, fun _ => Iff.rfl, fun _ => rfl, fun s b _ hb =>
    hw.deviceBytes_of_keeps hb rfl fun id b _ => hk.lends id b⟩

/-- The contents of the slots for which `T` holds were changed, and they are clean. -/
theorem Sound.serves_withChanges {d : Device} {T : SlotId → Prop} {B : BlockId → Prop}
    (hw : w.Sound) (hd : Device.Changes B w.device d)
    (hown : ∀ id, B id → ∃ s, T s ∧ w.table.block? s = some id)
    (hclean : ∀ s, T s → (w.withDevice d).Clean s) : Serves T w (w.withDevice d) where
  sound := (hw.withChanges hd hown).1
  advances := by
    refine hw.advances_withDevice hd.continues ?_ (fun id b hB hb => hd.lends_of_not hb hB)
      fun s id hid hB => .inr ?_
    · intro id hB
      obtain ⟨s, -, hs⟩ := hown id hB
      exact ⟨s, hs⟩
    · obtain ⟨s', hT, hs'⟩ := hown id hB
      exact hclean s (hw.apart s s' id hid hs' ▸ hT)
  has _ := Iff.rfl
  host _ := rfl
  bytes s b hs hb := by
    refine hw.deviceBytes_of_keeps hb rfl fun id b hid hb => hd.lends_of_not hb ?_
    intro hB
    obtain ⟨s', hT, hs'⟩ := hown id hB
    exact hs (hw.apart s s' id hid hs' ▸ hT)

/-- A slot may note that it agrees with a version of its buffer, where it does. -/
theorem Sound.markSynced {v : Nat} (hw : w.Sound) (hv : v ≤ (w.host s).version)
    (hc : w.deviceBytes s = some (w.host s).bytes) :
    Serves (fun _ => False) w (w.setSlot s { w.table.get s with synced := some v }) := by
  have hrev : Revises s { w.table.get s with synced := some v } w
      (w.setSlot s { w.table.get s with synced := some v }) :=
    { hosts := .refl _
      pool := hw.pool
      rules := .refl _
      lends := fun _ _ _ h => h
      table := hw.table.set rfl
      get := fun _ => rfl
      has := fun _ => SlotTable.has_set
      bound := hw.bound s
      type := fun _ => rfl
      room := hw.room s
      origin := fun a id ha hid => .inl (block?_eq_some.mpr ⟨a, ha, hid⟩)
      synced := fun v' hv' => by cases hv'; exact hv
      clean := fun hs _ => by
        have hget : (w.setSlot s { w.table.get s with synced := some v }).table.get s =
            { w.table.get s with synced := some v } := SlotTable.get_set_self hs
        simp only [host, deviceBytes, SlotTable.block?, hget]
        exact hc }
  have hserves := hrev.serves hw rfl
  refine { hserves with bytes := ?_ }
  intro s' b _ hb
  by_cases he : s' = s
  · exact (deviceBytes_setSlot (by rfl) s').trans hb
  · exact hserves.bytes s' b he hb

/-! ### Making room -/

/-- There is no room for a slot. -/
def Full (w : Workspace) (s : SlotId) : Prop := ∃ e, (ensureAllocated s w).1 = .error e

theorem ensureAllocated_apply (s : SlotId) (w : Workspace) :
    ensureAllocated s w =
      if (w.table.get s).isAllocated then (.ok false, w) else
      match Device.allocate (w.host s).type (w.host s).len w.device with
      | (.ok a, d) => (.ok true, (w.withDevice d).setSlot s ⟨(w.table.get s).host, some a, none⟩)
      | (.error e, d) => (.error e, w.withDevice d) := by
  rw [ensureAllocated, Step.bind_apply, Step.get_apply]
  dsimp only
  split
  · rfl
  · rw [Step.bind_apply, onDevice_apply]
    rcases Device.allocate (w.host s).type (w.host s).len w.device with ⟨e | a, d⟩ <;> rfl

/-- Making room for a slot is a request for the size of its buffer. -/
theorem allocate_of_alloc {r : Except DeviceError BlockId} {p : Pool}
    (h : w.pool.alloc (w.host s).byteLen true = (r, p)) :
    Device.allocate (w.host s).type (w.host s).len w.device =
      (r.map fun id => ⟨(w.host s).type, (w.host s).len, some id⟩, { w.device with pool := p }) :=
  Device.allocate_of_alloc h

/-- A slot is full if the pool has nothing for it. -/
theorem full_of_alloc {e : DeviceError} {p : Pool} (hs : ¬ (w.table.get s).isAllocated = true)
    (h : w.pool.alloc (w.host s).byteLen true = (.error e, p)) : w.Full s := by
  refine ⟨e, ?_⟩
  rw [ensureAllocated_apply, if_neg hs, allocate_of_alloc h]
  rfl

/-- Without a limit on memory no slot is full. -/
theorem not_full (h : w.pool.arena.capacity = none) (s : SlotId) : ¬ w.Full s := by
  rintro ⟨e, he⟩
  rw [ensureAllocated_apply] at he
  split at he
  · cases he
  · obtain ⟨id, p, hp⟩ := Pool.alloc_unlimited h (w.host s).byteLen
    rw [allocate_of_alloc hp] at he
    cases he

/-- A slot without memory may get a block that was free. It agrees with nothing then. -/
theorem Sound.revises_allocated {p : Pool} (hw : w.Sound) (hp : p.Sound)
    (hk : Pool.Keeps w.pool p) (hlent : p.Lends id (.zeroed (w.host s).byteLen))
    (hfree : ∀ b, ¬ w.pool.Lends id b) :
    Revises s ⟨(w.table.get s).host, some ⟨(w.host s).type, (w.host s).len, some id⟩, none⟩ w
      ((w.withDevice { w.device with pool := p }).setSlot s
        ⟨(w.table.get s).host, some ⟨(w.host s).type, (w.host s).len, some id⟩, none⟩) where
  hosts := .refl _
  pool := hp
  rules := ⟨rfl, rfl, hk.capacity, hk.keep, fun _ => Nat.le_refl _⟩
  lends id b _ hb := hk.lends id b hb
  table := hw.table.set rfl
  get _ := rfl
  has _ := SlotTable.has_set
  bound := hw.bound s
  type _ := rfl
  room a ha := by
    cases ha
    exact ⟨rfl, rfl, id, _, rfl, hlent, rfl⟩
  origin a id' ha hid := by
    cases ha
    cases hid
    exact .inr hfree
  synced v hv := by cases hv
  clean hs := clean_of_synced (congrArg Slot.synced (SlotTable.get_set_self hs))

/-- Making room either succeeds or is refused for want of memory. -/
theorem ensureAllocated_inv {r : Except DeviceError Bool} (hw : w.Sound)
    (h : ensureAllocated s w = (r, w')) :
    Serves (fun _ => False) w w' ∧ w'.hosts = w.hosts ∧
      ((∃ u, r = .ok u ∧ (w.table.Has s → ∃ id, w'.table.block? s = some id)) ∨
        (∃ n, r = .error (.outOfMemory (w.host s).byteLen n)) ∧ w'.Full s) := by
  rw [ensureAllocated_apply] at h
  split at h
  · rename_i halloc
    cases h
    exact ⟨.refl _ hw, rfl, .inl ⟨false, rfl, fun _ => isAllocated_iff.mp halloc⟩⟩
  · rename_i halloc
    have hnone := hw.allocation_eq_none (by simpa using halloc)
    rcases hp : w.pool.alloc (w.host s).byteLen true with ⟨e | id, p⟩ <;>
      obtain ⟨hsound, hkeeps, hlends, herr⟩ := Pool.alloc_inv hw.pool hp <;>
      rw [allocate_of_alloc hp] at h <;> cases h
    · -- the pool may have given back what it kept
      refine ⟨hw.serves_withPool ⟨rfl, rfl, hkeeps.capacity, hkeeps.keep, fun _ => Nat.le_refl _⟩
        hsound hkeeps, rfl, .inr ⟨⟨_, congrArg Except.error (herr e rfl)⟩, ?_⟩⟩
      obtain ⟨e', he'⟩ := Pool.alloc_of_refused hp
      exact full_of_alloc (w := w.withDevice { w.device with pool := p }) halloc he'
    · obtain ⟨hlent, hfree⟩ := hlends id rfl
      have hserves := (hw.revises_allocated hsound hkeeps hlent hfree).serves hw rfl
      refine ⟨{ hserves with bytes := ?_ }, rfl, .inl ⟨true, rfl, ?_⟩⟩
      · intro s' b _ hb
        -- the slot itself had no memory that could have held anything
        refine hserves.bytes s' b ?_ hb
        intro he
        rw [he, deviceBytes, SlotTable.block?, hnone] at hb
        cases hb
      · intro hs
        exact ⟨id, block?_eq_some.mpr ⟨⟨_, _, some id⟩,
          congrArg Slot.allocation (SlotTable.get_set_self hs), rfl⟩⟩

/-! ### Copies -/

theorem upload_apply (s : SlotId) (w : Workspace) :
    upload s w =
      match ensureAllocated s w with
      | (.error e, w₁) => (.error e, w₁)
      | (.ok _, w₁) =>
        match (w₁.table.get s).allocation with
        | none => (.error .notAllocated, w₁)
        | some a =>
          match Device.upload a (w₁.host s).bytes w₁.device with
          | (.error e, d) => (.error e, w₁.withDevice d)
          | (.ok _, d) => markSynced s (w₁.host s).version (w₁.withDevice d) := by
  rw [upload, Step.bind_apply]
  rcases ensureAllocated s w with ⟨e | u, w₁⟩
  · rfl
  · dsimp only
    rw [Step.bind_apply, allocation, Step.bind_apply, Step.get_apply]
    dsimp only
    rcases (w₁.table.get s).allocation with _ | a
    · rfl
    · show (onDevice (Device.upload a (w₁.host s).bytes) >>= _) w₁ = _
      rw [Step.bind_apply, onDevice_apply]
      dsimp only
      rcases Device.upload a (w₁.host s).bytes w₁.device with ⟨e | u, d⟩ <;> rfl

/-- The room of a slot is filled with the bytes of its buffer, or the device refuses. -/
theorem Sound.fill_inv {a : Allocation} {r : Except DeviceError Unit} {d : Device} (hw : w.Sound)
    (ha : (w.table.get s).allocation = some a)
    (h : Device.upload a (w.host s).bytes w.device = (r, d)) :
    ((∃ reason, r = .error (.transfer reason)) ∧ Device.Fails .upload w.device d ∧
      Serves (fun _ => False) w (w.withDevice d)) ∨
    r = .ok () ∧ Serves (· = s) w (w.withDevice d) ∧
      (w.withDevice d).deviceBytes s = some (w.host s).bytes := by
  obtain ⟨htype, hlen, id, b, hid, hb, hsize⟩ := hw.room s a ha
  have hblock : w.table.block? s = some id := block?_eq_some.mpr ⟨a, ha, hid⟩
  have hsrc : (w.host s).bytes.size = a.size := by
    rw [HostBuffer.size_bytes, HostBuffer.byteLen, Allocation.size, htype, hlen]
  have hchanges := Device.upload_changes w.device a (w.host s).bytes
  rw [h] at hchanges
  obtain ⟨hreason, hfails, hpool⟩ | ⟨rfl, hpool⟩ := Device.upload_inv hb hid hsrc h
  · exact .inl ⟨hreason, hfails,
      hw.serves_withPool hchanges.continues (hpool ▸ hw.pool) (hpool ▸ .refl _)⟩
  · have hlent : d.pool.Lends id (b.patch 0 (w.host s).bytes.toList) := by
      rw [hpool]
      exact hb.modify (·.patch 0 (w.host s).bytes.toList)
    have hfull : (w.withDevice d).deviceBytes s = some (w.host s).bytes := by
      have hblock' : (w.withDevice d).table.block? s = some id := hblock
      rw [deviceBytes_of_lends hblock' hlent, Block.content_patch]
      rw [HostBuffer.size_bytes, hsize]
    refine .inr ⟨rfl, ?_, hfull⟩
    refine hw.serves_withChanges hchanges (fun id' hid' => ⟨s, rfl, ?_⟩) ?_
    · rw [hblock, ← hid, hid']
    · intro s' he _
      rw [he]
      exact hfull

/-- Copying to the device either fills device memory with the bytes of the buffer, or is refused
for want of memory or as a call. A slot that was not made has nothing to copy. -/
theorem upload_inv {r : Except DeviceError Unit} (hw : w.Sound) (h : upload s w = (r, w')) :
    Serves (· = s) w w' ∧ w'.hosts = w.hosts ∧
      ((r = .ok () ∧ w.table.Has s ∧ w'.deviceBytes s = some (w.host s).bytes) ∨
        ((∃ n, r = .error (.outOfMemory (w.host s).byteLen n)) ∧ w'.Full s) ∨
        ((∃ reason, r = .error (.transfer reason)) ∧ Device.Fails .upload w.device w'.device) ∨
        (r = .error .notAllocated ∧ ¬ w.table.Has s)) := by
  rw [upload_apply] at h
  rcases he : ensureAllocated s w with ⟨r₁, w₁⟩
  obtain ⟨hserves, hhosts, ⟨u, rfl, halloc⟩ | ⟨⟨n, rfl⟩, hfull⟩⟩ := ensureAllocated_inv hw he <;>
    rw [he] at h <;> dsimp only at h
  · rcases ha : (w₁.table.get s).allocation with _ | a <;> rw [ha] at h <;> dsimp only at h
    · cases h
      refine ⟨hserves.mono nofun, hhosts, .inr (.inr (.inr ⟨rfl, ?_⟩))⟩
      intro hs
      obtain ⟨id, hid⟩ := halloc hs
      rw [SlotTable.block?, ha] at hid
      cases hid
    · have hhost := hserves.host_eq hhosts s
      rcases hup : Device.upload a (w₁.host s).bytes w₁.device with ⟨r₂, d⟩
      rw [hup] at h
      obtain ⟨⟨reason, rfl⟩, hfails, hsame⟩ | ⟨rfl, hcopy, hfilled⟩ := hserves.sound.fill_inv ha hup
      · cases h
        exact ⟨(hserves.trans hsame).mono nofun, hhosts, .inr (.inr (.inl ⟨⟨reason, rfl⟩,
          hfails.trans hserves.advances.rules (.refl _)⟩))⟩
      · -- the room is filled, and the slot may say so
        have hmark := hcopy.sound.markSynced (v := (w₁.host s).version) (Nat.le_refl _) hfilled
        cases h
        refine ⟨((hserves.mono nofun).trans hcopy).trans (hmark.mono nofun), hhosts,
          .inl ⟨rfl, (hserves.has s).mp ((hcopy.has s).mp (has_of_deviceBytes hfilled)), ?_⟩⟩
        rw [← hhost]
        exact hmark.bytes s _ not_false hfilled
  · cases h
    exact ⟨hserves.mono nofun, hhosts, .inr (.inl ⟨⟨n, rfl⟩, hfull⟩)⟩

theorem download_apply (s : SlotId) (w : Workspace) :
    download s w =
      match (w.table.get s).allocation with
      | none => (.error .notAllocated, w)
      | some a =>
        match Device.download a (w.host s).touch.bytes.size w.device with
        | (.error e, d) => (.error e, (w.setHost s (w.host s).touch).withDevice d)
        | (.ok bytes, d) => markSynced s (w.host s).touch.version
            ((w.withDevice d).setHost s ((w.host s).touch.patch 0 bytes.toList)) := by
  rw [download, Step.bind_apply, allocation, Step.bind_apply, Step.get_apply]
  dsimp only
  rcases (w.table.get s).allocation with _ | a
  · rfl
  · show (onDevice (Device.download a (w.host s).touch.bytes.size) >>= _)
      (w.setHost s (w.host s).touch) = _
    rw [Step.bind_apply, onDevice_apply]
    have hd : (w.setHost s (w.host s).touch).device = w.device := rfl
    rw [hd]
    dsimp only
    rcases Device.download a (w.host s).touch.bytes.size w.device with ⟨e | bytes, d⟩
    · rfl
    · have hset : ((w.setHost s (w.host s).touch).withDevice d).setHost s
          ((w.host s).touch.patch 0 bytes.toList) =
          (w.withDevice d).setHost s ((w.host s).touch.patch 0 bytes.toList) := by
        simp only [setHost, withDevice, HostMemory.set_set]
      dsimp only
      rw [← hset]
      rfl

/-- The buffer in a slot was opened for writing and has other bytes; device memory is as before.
The slot may say that it agrees with what its buffer has come to hold. -/
theorem Sound.revises_setHost {d : Device} {h : HostBuffer} {x : Slot} (hw : w.Sound)
    (hs : w.table.Has s) (hr : w.device.Continues d) (hp : d.pool = w.pool)
    (ht : h.type = (w.host s).type) (hl : h.len = (w.host s).len)
    (hv : (w.host s).version < h.version) (hxh : x.host = (w.table.get s).host)
    (hxa : x.allocation = (w.table.get s).allocation)
    (hsync : ∀ v, x.synced = some v → v ≤ h.version)
    (hclean : x.synced = some h.version → w.deviceBytes s = some h.bytes) :
    Revises s x w (((w.withDevice d).setHost s h).setSlot s x) := by
  have hself : (w.hosts.set (w.table.get s).host h).get x.host = h := by
    rw [hxh]
    exact HostMemory.get_set_self h (hw.bound s hs)
  have hext : w.hosts.Extends (w.hosts.set (w.table.get s).host h) := .set ht hl hv
  exact
    { hosts := hext
      pool := (congrArg Pool.Sound hp).mpr hw.pool
      rules := hr
      lends := fun id b _ hb => (congrArg (Pool.Lends · id b) hp).mpr hb
      table := hw.table.set hxh
      get := fun _ => rfl
      has := fun _ => SlotTable.has_set
      bound := fun hs => hxh ▸ hext.has (hw.bound s hs)
      type := fun _ => (congrArg HostBuffer.type hself).trans ht
      room := fun a ha => by
        obtain ⟨hat, hal, id, b, hid, hb, hsize⟩ := hw.room s a (hxa ▸ ha)
        show a.Fits d.pool ((w.hosts.set (w.table.get s).host h).get x.host)
        rw [hself, hp]
        refine ⟨hat.trans ht.symm, hal.trans hl.symm, id, b, hid, hb, hsize.trans ?_⟩
        rw [HostBuffer.byteLen, HostBuffer.byteLen, ht, hl]
      origin := fun a id ha hid => .inl (block?_eq_some.mpr ⟨a, hxa ▸ ha, hid⟩)
      synced := fun v hxv => Nat.le_trans (hsync v hxv)
        (Nat.le_of_eq (congrArg HostBuffer.version hself).symm)
      clean := fun _ hsy => by
        have hget : (((w.withDevice d).setHost s h).setSlot s x).table.get s = x :=
          SlotTable.get_set_self hs
        have hhost : (((w.withDevice d).setHost s h).setSlot s x).host s = h := by
          rw [host, hget]
          exact hself
        rw [hget, hhost] at hsy
        rw [hhost, ← hclean hsy]
        simp only [deviceBytes, SlotTable.block?, hget, hxa]
        exact congrArg (fun p : Pool => (((w.table.get s).allocation.bind Allocation.block).bind
          p.arena.get?).map Block.content) hp }

/-- Copying from the device either fills the buffer with what device memory holds, or fails as a
call, which has opened the buffer for writing and left it as it was. Where there is no device
memory, nothing happens. -/
theorem download_inv {r : Except DeviceError Unit} (hw : w.Sound) (h : download s w = (r, w')) :
    Serves (fun _ => False) w w' ∧
      ((r = .ok () ∧ ∃ b : Bytes, w.deviceBytes s = some b ∧ b.size = (w.host s).bytes.size ∧
          w'.hosts = w.hosts.set (w.table.get s).host ((w.host s).touch.patch 0 b.toList)) ∨
        ((∃ reason, r = .error (.transfer reason)) ∧ Device.Fails .download w.device w'.device ∧
          w'.hosts = w.hosts.set (w.table.get s).host (w.host s).touch) ∨
        (r = .error .notAllocated ∧ w.table.block? s = none ∧ w' = w)) := by
  rw [download_apply] at h
  rcases ha : (w.table.get s).allocation with _ | a <;> rw [ha] at h
  · cases h
    refine ⟨.refl _ hw, .inr (.inr ⟨rfl, ?_, rfl⟩)⟩
    rw [SlotTable.block?, ha]
    rfl
  · obtain ⟨htype, hlen, id, b, hid, hb, hsize⟩ := hw.room s a ha
    have hblock : w.table.block? s = some id := block?_eq_some.mpr ⟨a, ha, hid⟩
    have hs : w.table.Has s := has_of_block? hblock
    have hbytes : w.deviceBytes s = some b.content := deviceBytes_of_lends hblock hb
    have hn : (w.host s).touch.bytes.size = a.size := by
      rw [HostBuffer.size_bytes, HostBuffer.byteLen, Allocation.size, htype, hlen]
      rfl
    have hcontent : b.content.size = (w.host s).bytes.size := by
      rw [Block.size_content, hsize, HostBuffer.size_bytes]
    dsimp only at h
    have hrules := (Device.download_changes (fun _ => False) w.device a
      (w.host s).touch.bytes.size).continues
    rcases hdl : Device.download a (w.host s).touch.bytes.size w.device with ⟨rd, d⟩
    rw [hdl] at h hrules
    obtain ⟨⟨reason, rfl⟩, hfails, hpool⟩ | ⟨rfl, hpool⟩ := Device.download_inv hb hid hn hdl
    · have hrev := hw.revises_setHost (h := (w.host s).touch) (x := w.table.get s) hs hrules hpool
        rfl rfl (Nat.lt_succ_self _) rfl rfl
        (fun v hv => Nat.le_succ_of_le (hw.synced s v hv))
        fun hv => absurd (hw.synced s _ hv) (Nat.not_succ_le_self _)
      have hset : (((w.withDevice d).setHost s (w.host s).touch).setSlot s (w.table.get s)) =
          (w.setHost s (w.host s).touch).withDevice d :=
        congrArg (Workspace.mk _) (SlotTable.set_get _ _)
      rw [hset] at hrev
      cases h
      exact ⟨(hrev.serves hw rfl).of_pool hpool rfl, .inr (.inl ⟨⟨reason, rfl⟩, hfails, rfl⟩)⟩
    · have hrev := hw.revises_setHost (h := (w.host s).touch.patch 0 b.content.toList)
        (x := { w.table.get s with synced := some (w.host s).touch.version }) hs hrules hpool
        rfl rfl (Nat.lt_succ_self _) rfl rfl
        (fun v hv => by cases hv; exact Nat.le_refl _)
        fun _ => hbytes.trans (congrArg some (HostBuffer.bytes_patch hcontent).symm)
      cases h
      exact ⟨(hrev.serves hw rfl).of_pool hpool (SlotTable.block?_set (by rfl) s),
        .inl ⟨rfl, b.content, hbytes, hcontent, rfl⟩⟩

/-- After a copy to the device, device memory and buffer agree. -/
theorem deviceBytes_of_upload (hw : w.Sound) (h : upload s w = (.ok (), w')) :
    w'.deviceBytes s = some (w'.host s).bytes := by
  obtain ⟨hserves, hhosts, ⟨-, -, hbytes⟩ | ⟨⟨_, hr⟩, -⟩ | ⟨⟨_, hr⟩, -⟩ | ⟨hr, -⟩⟩ :=
    upload_inv hw h
  · rw [hbytes, hserves.host_eq hhosts]
  all_goals cases hr

/-- After a copy from the device, device memory and buffer agree. -/
theorem deviceBytes_of_download (hw : w.Sound) (h : download s w = (.ok (), w')) :
    w'.deviceBytes s = some (w'.host s).bytes := by
  obtain ⟨hserves, ⟨-, b, hbytes, hsize, hhosts⟩ | ⟨⟨_, hr⟩, -⟩ | ⟨hr, -⟩⟩ := download_inv hw h
  · rw [hserves.bytes s b not_false hbytes,
      hserves.host_set hw (has_of_deviceBytes hbytes) hhosts]
    exact congrArg some (HostBuffer.bytes_patch (h := (w.host s).touch) hsize).symm
  all_goals cases hr

/-! ### What copies have in common -/

/-- `K` leaves room for what is done about the device memory of a slot: the device works on its
block, and the slot says what it agrees with. -/
structure Serviced (K : Workspace → Workspace → Prop) (s : SlotId) : Prop where
  /-- one thing may be done after the other -/
  trans : ∀ w w' w'', K w w' → K w' w'' → K w w''
  /-- the device works on the block -/
  device : ∀ w d, Device.Changes (w.table.block? s = some ·) w.device d → K w (w.withDevice d)
  /-- the slot agrees with some version -/
  synced : ∀ w n, K w (w.setSlot s { w.table.get s with synced := some n })

/-- A copy to the device makes room, works on the block and marks the slot. -/
theorem Serviced.upload {K : Workspace → Workspace → Prop} (hK : Serviced K s)
    (hroom : K w (ensureAllocated s w).2) : K w (upload s w).2 := by
  rw [upload_apply]
  rcases he : ensureAllocated s w with ⟨e | u, w₁⟩ <;> rw [he] at hroom
  · exact hroom
  · dsimp only
    rcases ha : (w₁.table.get s).allocation with _ | a
    · exact hroom
    · have hcopy := hK.device w₁ _ ((Device.upload_changes w₁.device a (w₁.host s).bytes).mono
        fun id hid => block?_eq_some.mpr ⟨a, ha, hid⟩)
      dsimp only
      rcases hd : Device.upload a (w₁.host s).bytes w₁.device with ⟨e | u, d⟩ <;> rw [hd] at hcopy
      · exact hK.trans _ _ _ hroom hcopy
      · exact hK.trans _ _ _ (hK.trans _ _ _ hroom hcopy) (hK.synced _ _)

/-- A copy to the host writes the buffer in the slot as well. -/
theorem Serviced.download {K : Workspace → Workspace → Prop} (hK : Serviced K s)
    (hrefl : ∀ w, K w w) (hhost : ∀ w b, K w (w.setHost s b)) (w : Workspace) :
    K w (download s w).2 := by
  rw [download_apply]
  rcases (w.table.get s).allocation with _ | a
  · exact hrefl w
  · have hcopy := Device.download_changes (w.table.block? s = some ·) w.device a
      (w.host s).touch.bytes.size
    dsimp only
    rcases hd : Device.download a (w.host s).touch.bytes.size w.device with ⟨e | bytes, d⟩ <;>
      rw [hd] at hcopy
    · exact hK.trans _ _ _ (hhost w _) (hK.device (w.setHost s _) d hcopy)
    · exact hK.trans _ _ _ (hK.trans _ _ _ (hK.device w d hcopy) (hhost _ _)) (hK.synced _ _)

/-- Making room only fails for want of memory. -/
theorem ensureAllocated_error {e : DeviceError} (hw : w.Sound)
    (h : (ensureAllocated s w).1 = .error e) : ∃ n n', e = .outOfMemory n n' := by
  rcases hr : ensureAllocated s w with ⟨r, w'⟩
  rw [hr] at h
  obtain ⟨-, -, ⟨u, rfl, -⟩ | ⟨⟨n, rfl⟩, -⟩⟩ := ensureAllocated_inv hw hr <;> cases h
  exact ⟨_, _, rfl⟩

/-- Copying to the device only fails for want of memory, where no such call fails. -/
theorem upload_error {e : DeviceError} (hw : w.Sound) (hs : w.table.Has s)
    (hq : ∀ n, w.device.faults .upload n = false) (h : (upload s w).1 = .error e) :
    ∃ n n', e = .outOfMemory n n' := by
  rcases hr : upload s w with ⟨r, w'⟩
  rw [hr] at h
  obtain ⟨-, -, ⟨rfl, -⟩ | ⟨⟨n, rfl⟩, -⟩ | ⟨-, m, -, -, hf⟩ | ⟨-, hnot⟩⟩ := upload_inv hw hr
  · cases h
  · cases h
    exact ⟨_, _, rfl⟩
  · rw [hq m] at hf
    cases hf
  · exact absurd hs hnot

/-- No copy to the device is refused for its size. -/
theorem upload_ne_sizeMismatch (hw : w.Sound) (s : SlotId) (expected actual : Nat) :
    (upload s w).1 ≠ .error (.sizeMismatch expected actual) := by
  rcases h : upload s w with ⟨r, w'⟩
  obtain ⟨-, -, ⟨rfl, -⟩ | ⟨⟨_, rfl⟩, -⟩ | ⟨⟨_, rfl⟩, -⟩ | ⟨rfl, -⟩⟩ := upload_inv hw h <;> nofun

/-- No copy from the device is refused for its size. -/
theorem download_ne_sizeMismatch (hw : w.Sound) (s : SlotId) (expected actual : Nat) :
    (download s w).1 ≠ .error (.sizeMismatch expected actual) := by
  rcases h : download s w with ⟨r, w'⟩
  obtain ⟨-, ⟨rfl, -⟩ | ⟨⟨_, rfl⟩, -⟩ | ⟨rfl, -⟩⟩ := download_inv hw h <;> nofun

end Workspace

end Offload
