import Offload.Proofs.Binding
import Offload.Proofs.HostGrowth
import Offload.Proofs.Reach

/-!
# Workspaces stay sound

A workspace is sound when its slot table, the pool of its device and the versions that its slots
remember fit together. Every step of a slot table keeps it sound, and does not touch what
belongs to others on the same device.

* `Workspace.Sound` — what holds between the steps.
* `Workspace.Clean` — if a slot says that it agrees with its buffer, it does.
* `Workspace.Advances` — what a step may change. Slots stay clean, but for those that a kernel
  may have written.
* `Workspace.Revises` — the shape that all steps on one slot have in common.
-/

namespace Offload

/-- The block of a slot. -/
def SlotTable.block? (t : SlotTable) (s : SlotId) : Option BlockId :=
  (t.get s).allocation.bind Allocation.block

/-- A slot that changes with its room kept has the same block. -/
theorem SlotTable.block?_set {t : SlotTable} {s : SlotId} {x : Slot}
    (hx : x.allocation = (t.get s).allocation) (s' : SlotId) :
    (t.set s x).block? s' = t.block? s' := by
  rw [block?, block?]
  rcases get_set_cases t s s' x with ⟨rfl, -, hget⟩ | ⟨-, hget⟩ <;> rw [hget]
  rw [hx]

/-- Room for a host buffer, on loan from a pool. -/
structure Allocation.Fits (p : Pool) (h : HostBuffer) (a : Allocation) : Prop where
  /-- the elements have the type of those of the buffer -/
  type : a.type = h.type
  /-- there are as many -/
  len : a.len = h.len
  /-- the block is on loan and has the size of the buffer -/
  loan : ∃ id b, a.block = some id ∧ p.Lends id b ∧ b.size = h.byteLen

/-- `d'` is what `d` may come to: the rules are the same, and no call is forgotten. -/
structure Device.Continues (d d' : Device) : Prop where
  /-- they are the same target -/
  target : d'.target = d.target
  /-- the same calls fail -/
  faults : d'.faults = d.faults
  /-- memory is limited in the same way -/
  capacity : d'.pool.arena.capacity = d.pool.arena.capacity
  /-- as many blocks of each size are kept -/
  keep : d'.pool.keep = d.pool.keep
  /-- calls are counted on -/
  count : ∀ c, d.count c ≤ d'.count c

namespace Device

theorem Continues.refl (d : Device) : Continues d d :=
  ⟨rfl, rfl, rfl, rfl, fun _ => Nat.le_refl _⟩

theorem Continues.trans {d d' d'' : Device} (h : Continues d d') (h' : Continues d' d'') :
    Continues d d'' :=
  ⟨h'.target.trans h.target, h'.faults.trans h.faults, h'.capacity.trans h.capacity,
    h'.keep.trans h.keep, fun c => Nat.le_trans (h.count c) (h'.count c)⟩

theorem Changes.continues {W : BlockId → Prop} {d d' : Device} (h : Changes W d d') :
    Continues d d' :=
  ⟨h.target, h.faults, h.arena.capacity, h.keep, h.count⟩

end Device

namespace Workspace

variable {w w' w'' : Workspace} {s s' : SlotId} {x : Slot} {id : BlockId}

/-- Host memory. -/
abbrev hosts (w : Workspace) : HostMemory := w.machine.hosts

/-- The memory of the device. -/
abbrev pool (w : Workspace) : Pool := w.machine.context.device.pool

/-- What the device memory of a slot holds. -/
def deviceBytes (w : Workspace) (s : SlotId) : Option Bytes :=
  ((w.table.block? s).bind w.pool.arena.get?).map Block.content

/-- What holds between the steps. -/
structure Sound (w : Workspace) : Prop where
  /-- the pool is sound -/
  pool : w.pool.Sound
  /-- slots and buffers lead to each other -/
  table : w.table.Inverse
  /-- the buffer of a slot was made -/
  bound : ∀ s, w.table.Has s → w.hosts.Has (w.table.get s).host
  /-- device memory of a slot is room for its buffer -/
  room : ∀ s a, (w.table.get s).allocation = some a → a.Fits w.pool (w.host s)
  /-- no two slots have the same block -/
  apart : ∀ s s' id, w.table.block? s = some id → w.table.block? s' = some id → s = s'
  /-- the version that a slot remembers is a version that its buffer has had -/
  synced : ∀ s v, (w.table.get s).synced = some v → v ≤ (w.host s).version

/-- If the slot agrees with its buffer by its own account, it does. -/
def Clean (w : Workspace) (s : SlotId) : Prop :=
  (w.table.get s).synced = some (w.host s).version → w.deviceBytes s = some (w.host s).bytes

/-- What a step from `w` may lead to. A kernel may have written the slots for which `W` holds. -/
structure Advances (W : SlotId → Prop) (w w' : Workspace) : Prop where
  /-- host memory grows -/
  hosts : w.hosts.Extends w'.hosts
  /-- the rules of the device stay the same -/
  rules : w.device.Continues w'.device
  /-- no slot is lost -/
  has : ∀ s, w.table.Has s → w'.table.Has s
  /-- a slot keeps its element type -/
  type : ∀ s, w.table.Has s → (w'.host s).type = (w.host s).type
  /-- the block of a slot was one of a slot before, or was free -/
  origin : ∀ s id, w'.table.block? s = some id →
    (∃ s₀, w.table.block? s₀ = some id) ∨ ∀ b, ¬ w.pool.Lends id b
  /-- the blocks of others are still on loan, with the same contents -/
  others : ∀ id b, (∀ s, w.table.block? s ≠ some id) → w.pool.Lends id b → w'.pool.Lends id b
  /-- what is clean stays so unless a kernel wrote it -/
  clean : ∀ s, ¬ W s → w.Clean s → w'.Clean s

namespace Advances

variable {W W' : SlotId → Prop}

theorem refl (W : SlotId → Prop) (w : Workspace) : Advances W w w where
  hosts := .refl _
  rules := .refl _
  has _ h := h
  type _ _ := rfl
  origin s _ h := .inl ⟨s, h⟩
  others _ _ _ h := h
  clean _ _ h := h

theorem trans (h : Advances W w w') (h' : Advances W w' w'') : Advances W w w'' where
  hosts := h.hosts.trans h'.hosts
  rules := h.rules.trans h'.rules
  has s hs := h'.has s (h.has s hs)
  type s hs := (h'.type s (h.has s hs)).trans (h.type s hs)
  origin s id hs := by
    rcases h'.origin s id hs with ⟨s₀, h₀⟩ | hfree
    · exact h.origin s₀ id h₀
    · -- free in between: nobody else had it on loan before
      by_cases hown : ∃ s₀, w.table.block? s₀ = some id
      · exact .inl hown
      · have hnot : ∀ s, w.table.block? s ≠ some id := fun s he => hown ⟨s, he⟩
        exact .inr fun b hb => hfree b (h.others id b hnot hb)
  others id b hnot hb := by
    have hmid := h.others id b hnot hb
    refine h'.others id b ?_ hmid
    intro s hs
    rcases h.origin s id hs with ⟨s₀, h₀⟩ | hfree
    · exact hnot s₀ h₀
    · exact hfree b hb
  clean s hs hc := h'.clean s hs (h.clean s hs hc)

theorem mono (h : Advances W w w') (hW : ∀ s, W s → W' s) : Advances W' w w' :=
  { h with clean := fun s hs => h.clean s (mt (hW s) hs) }

end Advances

/-! ### Slots and their blocks -/

theorem block?_eq_some {t : SlotTable} :
    t.block? s = some id ↔ ∃ a, (t.get s).allocation = some a ∧ a.block = some id := by
  rw [SlotTable.block?, Option.bind_eq_some_iff]

/-- A slot has a block just where it says that it has device memory. -/
theorem isAllocated_iff :
    (w.table.get s).isAllocated = true ↔ ∃ id, w.table.block? s = some id := by
  rw [Slot.isAllocated, SlotTable.block?]
  cases (w.table.get s).allocation <;> simp [Allocation.isAllocated, Option.isSome_iff_exists]

/-- A slot with device memory was made. -/
theorem has_of_block? {t : SlotTable} (h : t.block? s = some id) : t.Has s := by
  refine Classical.byContradiction ?_
  intro hs
  rw [SlotTable.block?, SlotTable.get_of_not_has hs] at h
  cases h

/-- A slot of which device memory holds something was made. -/
theorem has_of_deviceBytes {xs : Bytes} (h : w.deviceBytes s = some xs) : w.table.Has s := by
  rcases hid : w.table.block? s with _ | id
  · rw [deviceBytes, hid] at h
    cases h
  · exact has_of_block? hid

/-- A slot that was not made is clean. -/
theorem clean_of_not_has (hs : ¬ w.table.Has s) : w.Clean s := by
  intro h
  rw [SlotTable.get_of_not_has hs] at h
  cases h

/-- A slot that agrees with nothing is clean. -/
theorem clean_of_synced (h : (w.table.get s).synced = none) : w.Clean s := by
  intro hsync
  rw [h] at hsync
  cases hsync

namespace Sound

/-- A machine without slots. -/
theorem empty {m : Machine} (hp : m.context.device.pool.Sound) : Sound ⟨m, .empty⟩ := by
  have hget : ∀ s, SlotTable.empty.get s = default := fun s =>
    SlotTable.get_of_not_has (Nat.not_lt_zero _)
  refine ⟨hp, .empty, fun s hs => absurd hs (Nat.not_lt_zero _), ?_, ?_, ?_⟩
  · intro s a ha
    rw [hget] at ha
    cases ha
  · intro s s' id h
    rw [SlotTable.block?, hget] at h
    cases h
  · intro s x hx
    rw [hget] at hx
    cases hx

/-- The block of a slot is on loan, and has the size of the buffer. -/
theorem lends (hw : w.Sound) (h : w.table.block? s = some id) :
    ∃ b, w.pool.Lends id b ∧ b.size = (w.host s).byteLen := by
  obtain ⟨a, ha, hid⟩ := block?_eq_some.mp h
  obtain ⟨id', b, hid', hb, hsize⟩ := (hw.room s a ha).loan
  rw [hid] at hid'
  obtain rfl := Option.some.inj hid'
  exact ⟨b, hb, hsize⟩

/-- Where a slot says that it has no memory, it has none. -/
theorem allocation_eq_none (hw : w.Sound) (h : (w.table.get s).isAllocated = false) :
    (w.table.get s).allocation = none := by
  rcases ha : (w.table.get s).allocation with _ | a
  · rfl
  · obtain ⟨id, b, hid, -⟩ := (hw.room s a ha).loan
    rw [Slot.isAllocated, ha] at h
    simp [Allocation.isAllocated, hid] at h

end Sound

/-- What a slot with a block on loan holds. -/
theorem deviceBytes_of_lends {b : Block} (h : w.table.block? s = some id)
    (hb : w.pool.Lends id b) : w.deviceBytes s = some b.content := by
  rw [deviceBytes, h, Option.bind_some, hb.1, Option.map_some]

/-- A slot holds what it held, if its block is the same and holds the same. -/
theorem Sound.deviceBytes_of_keeps {xs : Bytes} (hw : w.Sound) (hxs : w.deviceBytes s = some xs)
    (ht : w'.table.block? s = w.table.block? s)
    (hl : ∀ id b, w.table.block? s = some id → w.pool.Lends id b → w'.pool.Lends id b) :
    w'.deviceBytes s = some xs := by
  rcases hid : w.table.block? s with _ | id
  · rw [deviceBytes, hid] at hxs
    cases hxs
  · obtain ⟨b, hb, -⟩ := hw.lends hid
    rw [deviceBytes_of_lends hid hb] at hxs
    rw [deviceBytes_of_lends (ht.trans hid) (hl id b hid hb), hxs]

/-- A slot that changes with its room kept holds the same. -/
theorem deviceBytes_setSlot (hx : x.allocation = (w.table.get s).allocation) (s' : SlotId) :
    (w.setSlot s x).deviceBytes s' = w.deviceBytes s' := by
  rw [deviceBytes, setSlot, SlotTable.block?_set hx]
  rfl

/-! ### Changes around a table

A table stays as it is while others use the machine: host memory grows, and the device does
something else. -/

section Carry

variable {m : HostMemory} {c : Context}

/-- A table is sound on another machine where its blocks are on loan with the same sizes. -/
theorem Sound.carry (hw : w.Sound) (hm : w.hosts.Extends m)
    (hp : c.device.pool.Sound)
    (hl : ∀ s id b, w.table.block? s = some id → w.pool.Lends id b →
      ∃ b', c.device.pool.Lends id b' ∧ b'.size = b.size) :
    Sound ⟨⟨m, c⟩, w.table⟩ where
  pool := hp
  table := hw.table
  bound s h := hm.has (hw.bound s h)
  room s a ha := by
    obtain ⟨ht, hlen, id, b, hid, hb, hsize⟩ := hw.room s a ha
    have hblock : w.table.block? s = some id := block?_eq_some.mpr ⟨a, ha, hid⟩
    have hhost := hw.bound s (has_of_block? hblock)
    obtain ⟨b', hb', hsize'⟩ := hl s id b hblock hb
    exact ⟨ht.trans (hm.type _ hhost).symm, hlen.trans (hm.len _ hhost).symm, id, b', hid, hb',
      hsize'.trans (hsize.trans (hm.byteLen hhost).symm)⟩
  apart := hw.apart
  synced s v hv := by
    by_cases hs : w.table.Has s
    · exact Nat.le_trans (hw.synced s v hv) (hm.version _ (hw.bound s hs))
    · rw [SlotTable.get_of_not_has hs] at hv
      cases hv

/-- A clean slot is clean on another machine where its block holds the same. -/
theorem Clean.carry (hw : w.Sound) (hc : w.Clean s) (hm : w.hosts.Extends m)
    (hl : ∀ id b, w.table.block? s = some id → w.pool.Lends id b → c.device.pool.Lends id b) :
    Clean ⟨⟨m, c⟩, w.table⟩ s := by
  intro hsync
  by_cases hs : w.table.Has s
  · have hhost := hw.bound s hs
    -- the version has not moved, so neither have the bytes
    have hle := hw.synced s _ hsync
    have hge := hm.version _ hhost
    have heq : (m.get (w.table.get s).host).version = (w.host s).version :=
      Nat.le_antisymm hle hge
    have hbytes := hm.bytes _ hhost heq
    have hold : w.deviceBytes s = some (w.host s).bytes := hc (hsync.trans (congrArg some heq))
    have hkept : deviceBytes ⟨⟨m, c⟩, w.table⟩ s = some (w.host s).bytes :=
      hw.deviceBytes_of_keeps hold rfl hl
    rw [hkept]
    exact congrArg some hbytes.symm
  · rw [SlotTable.get_of_not_has hs] at hsync
    cases hsync

end Carry

/-! ### Steps on one slot -/

/-- `w'` is `w` with `x` in the place of slot `s`, after something was done to host memory and
to the device. -/
structure Revises (s : SlotId) (x : Slot) (w w' : Workspace) : Prop where
  /-- host memory has grown -/
  hosts : w.hosts.Extends w'.hosts
  /-- the pool is sound -/
  pool : w'.pool.Sound
  /-- the device has the same rules -/
  rules : w.device.Continues w'.device
  /-- all blocks but that of the slot are on loan as before -/
  lends : ∀ id b, w.table.block? s ≠ some id → w.pool.Lends id b → w'.pool.Lends id b
  /-- slots and buffers lead to each other -/
  table : w'.table.Inverse
  /-- the slots are the same but for one -/
  get : ∀ s', w'.table.get s' = (w.table.set s x).get s'
  /-- there are as many -/
  has : ∀ s', w'.table.Has s' ↔ w.table.Has s'
  /-- the buffer of the slot was made -/
  bound : w.table.Has s → w'.hosts.Has x.host
  /-- its type is the same -/
  type : w.table.Has s → (w'.hosts.get x.host).type = (w.host s).type
  /-- device memory of the slot is room for its buffer -/
  room : ∀ a, x.allocation = some a → a.Fits w'.pool (w'.hosts.get x.host)
  /-- its block is the same as before or was free -/
  origin : ∀ a id, x.allocation = some a → a.block = some id →
    w.table.block? s = some id ∨ ∀ b, ¬ w.pool.Lends id b
  /-- the version that it remembers is one that its buffer has had -/
  synced : ∀ v, x.synced = some v → v ≤ (w'.hosts.get x.host).version
  /-- it is clean -/
  clean : w.table.Has s → w'.Clean s

namespace Revises

variable (h : Revises s x w w')

include h

/-- A slot after the step is the new one, or it is as before and another one. -/
theorem get_cases (s' : SlotId) :
    (s' = s ∧ w.table.Has s ∧ w'.table.get s' = x) ∨
      ((s' = s → ¬ w.table.Has s) ∧ w'.table.get s' = w.table.get s') := by
  rw [h.get s']
  exact SlotTable.get_set_cases _ _ _ _

/-- The block of any other slot is on loan as before. -/
theorem lends_other (hw : w.Sound) (hne : s' = s → ¬ w.table.Has s)
    (hblock : w.table.block? s' = some id) {b : Block} (hb : w.pool.Lends id b) :
    w'.pool.Lends id b := by
  refine h.lends id b ?_ hb
  intro hs
  exact hne (hw.apart s' s id hblock hs) (has_of_block? hs)

theorem sound (hw : w.Sound) : w'.Sound where
  pool := h.pool
  table := h.table
  bound s' hs' := by
    rcases h.get_cases s' with ⟨-, hs, hget⟩ | ⟨-, hget⟩ <;> rw [hget]
    · exact h.bound hs
    · exact h.hosts.has (hw.bound s' ((h.has s').mp hs'))
  room s' a ha := by
    rcases h.get_cases s' with ⟨-, -, hget⟩ | ⟨hne, hget⟩ <;> rw [host, hget] <;> rw [hget] at ha
    · exact h.room a ha
    · obtain ⟨ht, hlen, id, b, hid, hb, hsize⟩ := hw.room s' a ha
      have hblock : w.table.block? s' = some id := block?_eq_some.mpr ⟨a, ha, hid⟩
      have hhost := hw.bound s' (has_of_block? hblock)
      exact ⟨ht.trans (h.hosts.type _ hhost).symm, hlen.trans (h.hosts.len _ hhost).symm, id, b,
        hid, h.lends_other hw hne hblock hb, hsize.trans (h.hosts.byteLen hhost).symm⟩
  apart s₁ s₂ id h₁ h₂ := by
    -- the block of the new slot is not that of any other
    have hnew : ∀ s', (s' = s → ¬ w.table.Has s) → w.table.block? s' = some id →
        ∀ a, x.allocation = some a → a.block = some id → False := by
      intro s' hne hblock a ha hid
      rcases h.origin a id ha hid with hs | hfree
      · exact hne (hw.apart s' s id hblock hs) (has_of_block? hs)
      · obtain ⟨b, hb, -⟩ := hw.lends hblock
        exact hfree b hb
    obtain ⟨a₁, ha₁, hid₁⟩ := block?_eq_some.mp h₁
    obtain ⟨a₂, ha₂, hid₂⟩ := block?_eq_some.mp h₂
    rcases h.get_cases s₁ with ⟨rfl, -, hg₁⟩ | ⟨hne₁, hg₁⟩ <;>
      rcases h.get_cases s₂ with ⟨he₂, -, hg₂⟩ | ⟨hne₂, hg₂⟩ <;>
      rw [hg₁] at ha₁ <;> rw [hg₂] at ha₂
    · exact he₂.symm
    · exact (hnew s₂ hne₂ (block?_eq_some.mpr ⟨a₂, ha₂, hid₂⟩) a₁ ha₁ hid₁).elim
    · exact (hnew s₁ hne₁ (block?_eq_some.mpr ⟨a₁, ha₁, hid₁⟩) a₂ ha₂ hid₂).elim
    · exact hw.apart s₁ s₂ id (block?_eq_some.mpr ⟨a₁, ha₁, hid₁⟩)
        (block?_eq_some.mpr ⟨a₂, ha₂, hid₂⟩)
  synced s' v hv := by
    rcases h.get_cases s' with ⟨-, -, hget⟩ | ⟨-, hget⟩ <;> rw [host, hget] <;> rw [hget] at hv
    · exact h.synced v hv
    · by_cases hs' : w.table.Has s'
      · exact Nat.le_trans (hw.synced s' v hv) (h.hosts.version _ (hw.bound s' hs'))
      · rw [SlotTable.get_of_not_has hs'] at hv
        cases hv

/-- Another slot that was clean stays so. -/
theorem clean_other (hw : w.Sound) (hne : s' = s → ¬ w.table.Has s)
    (hget : w'.table.get s' = w.table.get s') (hc : w.Clean s') : w'.Clean s' := by
  have hblock : w'.table.block? s' = w.table.block? s' := by
    rw [SlotTable.block?, SlotTable.block?, hget]
  have hcarry : Clean ⟨w'.machine, w.table⟩ s' :=
    hc.carry hw h.hosts fun id b hid hb => h.lends_other hw hne hid hb
  intro hsync
  rw [host, hget] at hsync ⊢
  rw [deviceBytes, hblock]
  exact hcarry hsync

theorem advances (hw : w.Sound) (W : SlotId → Prop) : Advances W w w' where
  hosts := h.hosts
  rules := h.rules
  has s' hs' := (h.has s').mpr hs'
  type s' hs' := by
    rcases h.get_cases s' with ⟨rfl, hs, hget⟩ | ⟨-, hget⟩ <;> rw [host, hget]
    · exact h.type hs
    · exact h.hosts.type _ (hw.bound s' hs')
  origin s' id hid := by
    obtain ⟨a, ha, hid⟩ := block?_eq_some.mp hid
    rcases h.get_cases s' with ⟨-, -, hget⟩ | ⟨-, hget⟩ <;> rw [hget] at ha
    · exact (h.origin a id ha hid).imp (fun hs => ⟨s, hs⟩) fun hfree => hfree
    · exact .inl ⟨s', block?_eq_some.mpr ⟨a, ha, hid⟩⟩
  others id b hnot hb := h.lends id b (hnot s) hb
  clean s' _ hc := by
    rcases h.get_cases s' with ⟨rfl, hs, -⟩ | ⟨hne, hget⟩
    · exact h.clean hs
    · exact h.clean_other hw hne hget hc

end Revises

end Workspace

end Offload
