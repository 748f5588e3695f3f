import Offload.Proofs.Veil

/-!
# Preparations

A slot may be given device memory, and a kernel compiled, before anybody asks. Either commutes with
whatever is done to slots that have device memory already: a block may be handed out before or after
another one is written.

* `Pool.alloc_modify` — requests and writes commute, also when blocks are kept and the pool is
  trimmed.
* `Preparation` — something that may be seen to ahead of time; `Preparation.After` is what comes of
  it.
* `Preparation.veil_after` — nobody who keeps to slots that have device memory notices.
-/

namespace Offload

open Step

/-! ### Requests and writes -/

namespace Arena

variable {m : Arena} {id id' : BlockId} {f : Block → Block}

/-- A block that is there was given out. -/
theorem lt_of_get? {b : Block} (h : m.get? id = some b) : id.index < m.blocks.size := by
  rcases Nat.lt_or_ge id.index m.blocks.size with hlt | hge
  · exact hlt
  · rw [get?_of_size_le m hge] at h
    cases h

theorem index_ne (h : id' ≠ id) : id'.index ≠ id.index := fun he => h (by
  cases id
  cases id'
  exact congrArg BlockId.mk he)

/-- Changes of two blocks may be made in either order. -/
theorem modify_modify (m : Arena) (g : Block → Block) (h : id' ≠ id) :
    (m.modify id f).modify id' g = (m.modify id' g).modify id f := by
  have hne := index_ne h
  simp only [modify, mk.injEq, true_and]
  refine Array.ext_getElem? fun i => ?_
  simp only [Array.getElem?_modify]
  by_cases hi : id.index = i
  · have hi' : id'.index ≠ i := fun hi' => hne (hi'.trans hi.symm)
    simp only [if_pos hi, if_neg hi']
  · simp only [if_neg hi]

/-- One block may be taken back before or after another one changes. -/
theorem free_modify (m : Arena) (h : id' ≠ id) :
    (m.modify id f).free id' = (m.free id').modify id f := by
  have hne := index_ne h
  rw [free, free, get?_modify_ne m f h]
  rcases m.get? id' with _ | b
  · rfl
  · simp only [modify, mk.injEq, true_and]
    refine Array.ext_getElem? fun i => ?_
    simp only [Array.getElem?_modify, Array.getElem?_setIfInBounds, Array.size_modify]
    by_cases hi : id'.index = i
    · have hi' : id.index ≠ i := fun hi' => hne (hi.trans hi'.symm)
      simp only [if_pos hi, if_neg hi']
    · simp only [if_neg hi]

/-- Blocks may be taken back before or after another one changes. -/
theorem foldl_free_modify (xs : List (Nat × BlockId)) (m : Arena) (h : id ∉ xs.map Prod.snd) :
    xs.foldl (fun a entry => a.free entry.2) (m.modify id f) =
      (xs.foldl (fun a entry => a.free entry.2) m).modify id f := by
  induction xs generalizing m with
  | nil => rfl
  | cons x xs ih =>
    rw [List.map_cons, List.mem_cons, not_or] at h
    rw [List.foldl_cons, List.foldl_cons, free_modify m (Ne.symm h.1), ih _ h.2]

/-- A block may be handed out before or after another one changes. -/
theorem alloc_modify {b : Block} (hb : m.get? id = some b) (size : Nat) :
    (m.modify id f).alloc size = ((m.alloc size).1, (m.alloc size).2.modify id f) := by
  have hlt := lt_of_get? hb
  rw [alloc, alloc]
  change (if m.fits size then _ else _) = _
  split
  · simp only [modify, Array.size_modify, Prod.mk.injEq, mk.injEq, true_and]
    refine Array.ext_getElem? fun i => ?_
    simp only [Array.getElem?_modify, Array.getElem?_push, Array.size_modify]
    by_cases hi : id.index = i
    · rw [if_pos hi, if_pos hi, if_neg (by omega), if_neg (by omega)]
    · rw [if_neg hi, if_neg hi]
  · rfl

end Arena

namespace Pool

variable {p : Pool} {id : BlockId} {b : Block} {f : Block → Block}

/-- Change the cells of a block. -/
def modify (p : Pool) (id : BlockId) (f : Block → Block) : Pool :=
  { p with arena := p.arena.modify id f }

/-- A pool may be trimmed before or after a block on loan changes. -/
theorem trim_modify (hb : p.Lends id b) : (p.modify id f).trim = p.trim.modify id f :=
  congrArg (fun a : Arena => { p with arena := a, cached := [] })
    (Arena.foldl_free_modify p.cached p.arena hb.2)

/-- The arena may be asked before or after a block on loan changes. -/
theorem allocFresh_modify (hb : p.Lends id b) (size : Nat) :
    (p.modify id f).allocFresh size =
      ((p.allocFresh size).1, (p.allocFresh size).2.modify id f) := by
  have hfirst : (p.modify id f).arena.alloc size = _ := Arena.alloc_modify hb.1 size
  have hsecond : (p.trim.modify id f).arena.alloc size = _ :=
    Arena.alloc_modify (p.trim_keeps.lends id b hb).1 size
  rw [allocFresh, allocFresh, trim_modify hb, hfirst, hsecond]
  rcases p.arena.alloc size with ⟨e | id', a⟩
  · dsimp only
    rcases p.trim.arena.alloc size with ⟨e' | id', a'⟩ <;> rfl
  · rfl

/-- A request may be made before or after a block on loan changes. -/
theorem alloc_modify (hb : p.Lends id b) (size : Nat) :
    (p.modify id f).alloc size true =
      ((p.alloc size true).1, (p.alloc size true).2.modify id f) := by
  have hcached : (p.modify id f).cached = p.cached := rfl
  rcases hfind : p.cached.find? (·.1 == size) with _ | entry
  · simp only [alloc, hcached, hfind]
    exact allocFresh_modify hb size
  · -- what is kept is not on loan
    have hne : entry.2 ≠ id := by
      rintro rfl
      exact hb.2 (List.mem_map.mpr ⟨entry, List.mem_of_find?_eq_some hfind, rfl⟩)
    simp only [alloc, hcached, hfind, if_true]
    exact congrArg (fun a : Arena => (Except.ok entry.2, Pool.mk a p.keep (p.cached.erase entry)))
      (Arena.modify_modify p.arena Block.clear hne)

end Pool

/-- Two slots may be changed in either order. -/
theorem SlotTable.set_set (t : SlotTable) {s s' : SlotId} (x y : Slot) (h : s' ≠ s) :
    (t.set s x).set s' y = (t.set s' y).set s x := by
  have hne : s.index ≠ s'.index := fun he => h (by
    cases s
    cases s'
    exact congrArg SlotId.mk he.symm)
  simp only [set, mk.injEq, and_true]
  exact Array.setIfInBounds_comm _ _ hne

/-! ### Preparations -/

/-- Something that may be seen to ahead of time. -/
inductive Preparation where
  /-- device memory for a slot -/
  | room (s : SlotId)
  /-- the program of a kernel -/
  | program (k : Kernel)

namespace Workspace

variable {w v : Workspace} {s s' : SlotId} {id : BlockId}

/-- The blocks of slots are on loan from a sound pool. -/
structure Stocked (w : Workspace) : Prop where
  /-- the pool is sound -/
  pool : w.pool.Sound
  /-- the blocks are on loan -/
  lends : ∀ s id, w.table.block? s = some id → ∃ b, w.pool.Lends id b

theorem Sound.stocked (hw : w.Sound) : w.Stocked where
  pool := hw.pool
  lends s id hid := by
    obtain ⟨b, hb, -⟩ := hw.lends hid
    exact ⟨b, hb⟩

/-- The workspace with a block for a slot, which leaves `p` of the pool. -/
def housed (w : Workspace) (s : SlotId) (id : BlockId) (p : Pool) : Workspace :=
  (w.withDevice { w.device with pool := p }).setSlot s
    ⟨(w.table.get s).host, some ⟨(w.host s).type, (w.host s).len, some id⟩, none⟩

section Frame

variable {e : Device.Edit} {p q : Pool} {b : HostBuffer} {n : Nat}

/-- What is written to blocks of slots leaves them where they are. -/
theorem Stocked.edit (hw : w.Stocked) (he : e.Within w.Owns) :
    (w.withDevice (e.apply w.device)).Stocked := by
  cases e with
  | count c => exact ⟨hw.pool, hw.lends⟩
  | report n => exact ⟨hw.pool, hw.lends⟩
  | patch id offset xs =>
    have hchanges := Arena.Changes.modify w.pool.arena id offset xs
    refine ⟨hw.pool.withArena hchanges, fun s id' hid' => ?_⟩
    obtain ⟨b, hb⟩ := hw.lends s id' hid'
    obtain ⟨b', hb', -⟩ := hb.withArena hchanges
    exact ⟨b', hb'⟩

theorem Stocked.setSynced (hw : w.Stocked) (s : SlotId) (n : Nat) :
    (w.setSlot s { w.table.get s with synced := some n }).Stocked :=
  ⟨hw.pool, fun s' id hid => hw.lends s' id ((SlotTable.block?_set (by rfl) s').symm.trans hid)⟩

/-- A request may be made before or after blocks of slots are written. -/
theorem Stocked.alloc_edit (hw : w.Stocked) (he : e.Within w.Owns) {size : Nat}
    (h : w.pool.alloc size true = (.ok id, q)) :
    (e.apply w.device).pool.alloc size true =
      (.ok id, (e.apply { w.device with pool := q }).pool) := by
  cases e with
  | count c => exact h
  | report n => exact h
  | patch id' offset xs =>
    obtain ⟨s, hs⟩ := he
    obtain ⟨b, hb⟩ := hw.lends s id' hs
    refine (Pool.alloc_modify hb size).trans ?_
    rw [h]
    rfl

/-- Slots have buffers of the same size when the buffer in one of them changes in no other way. -/
theorem host_setHost (ht : b.type = (w.host s).type) (hl : b.len = (w.host s).len) (s' : SlotId) :
    ((w.setHost s b).host s').type = (w.host s').type ∧
      ((w.setHost s b).host s').len = (w.host s').len := by
  rw [host, setHost]
  dsimp only
  by_cases he : (w.table.get s').host = (w.table.get s).host
  · by_cases hhas : w.hosts.Has (w.table.get s).host
    · rw [he, HostMemory.get_set_self b hhas, ht, hl, host, host, he]
      exact ⟨rfl, rfl⟩
    · rw [HostMemory.set_of_not_has hhas]
      exact ⟨rfl, rfl⟩
  · rw [HostMemory.get_set_ne _ b he]
    exact ⟨rfl, rfl⟩

theorem housed_withDevice (w : Workspace) (s : SlotId) (id : BlockId) (p : Pool) (e : Device.Edit) :
    (w.housed s id p).withDevice (e.apply (w.housed s id p).device) =
      (w.withDevice (e.apply w.device)).housed s id
        (e.apply { w.device with pool := p }).pool := by
  cases e <;> rfl

theorem housed_setHost (hne : s' ≠ s) (ht : b.type = (w.host s').type)
    (hl : b.len = (w.host s').len) :
    (w.housed s id p).setHost s' b = (w.setHost s' b).housed s id p := by
  obtain ⟨htype, hlen⟩ := host_setHost ht hl s
  have hget : (w.housed s id p).table.get s' = w.table.get s' := SlotTable.get_set_ne hne
  rw [setHost, hget, housed, housed, htype, hlen]
  rfl

theorem housed_setSynced (hne : s' ≠ s) :
    (w.housed s id p).setSlot s' { (w.housed s id p).table.get s' with synced := some n } =
      (w.setSlot s' { w.table.get s' with synced := some n }).housed s id p := by
  have hget : (w.housed s id p).table.get s' = w.table.get s' := SlotTable.get_set_ne hne
  have hget' : (w.setSlot s' { w.table.get s' with synced := some n }).table.get s =
      w.table.get s := SlotTable.get_set_ne hne.symm
  rw [hget, housed, housed, host, host, hget']
  exact congrArg (Workspace.mk _) (SlotTable.set_set _ _ _ hne)

end Frame

/-- The key under which a kernel is compiled. -/
def key (w : Workspace) (k : Kernel) : ProgramKey := ⟨k.id, w.device.target⟩

/-- The workspace with a new program of a kernel. -/
def compiled (w : Workspace) (k : Kernel) : Workspace :=
  let c := w.machine.context
  let calls := c.calls.push ⟨w.key k, true⟩
  { w with machine.context :=
    ({ c with issued := c.issued + 1, calls } : Context).insert (w.key k) ⟨c.issued, k⟩ }

/-- Compiling leads to the program that there is, or to a new one if the kernel can be compiled. -/
theorem compile_apply (k : Kernel) (w : Workspace) :
    onContext (Context.compile k) w =
      match w.machine.context.program? (w.key k) with
      | some q => (.ok q, w)
      | none => match k.compilable w.device.target with
        | .ok () => (.ok ⟨w.machine.context.issued, k⟩, w.compiled k)
        | .error e =>
          let call : CompilerCall := ⟨w.key k, false⟩
          (.error e, { w with machine.context.calls := w.machine.context.calls.push call }) := by
  rw [onContext, on_apply, Context.compile_apply, key, device]
  rcases w.machine.context.program? ⟨k.id, w.machine.context.device.target⟩ with _ | q
  · dsimp only
    rcases k.compilable w.machine.context.device.target with e | u <;> rfl
  · rfl

/-- There is no need to compile a kernel that has a program. -/
theorem compile_of_program? {k : Kernel} {q : Program}
    (h : w.machine.context.program? (w.key k) = some q) :
    onContext (Context.compile k) w = (.ok q, w) := by
  rw [compile_apply, h]

/-- What was compiled is found. -/
theorem program?_of_compile {k : Kernel} {q : Program}
    (h : onContext (Context.compile k) w = (.ok q, v)) :
    v.machine.context.program? (v.key k) = some q := by
  rw [compile_apply] at h
  rcases hq : w.machine.context.program? (w.key k) with _ | q' <;> rw [hq] at h
  · rcases hk : k.compilable w.device.target with e | u <;> rw [hk] at h <;> cases h
    exact Context.program?_insert_self _ _ _
  · cases h
    exact hq

end Workspace

namespace Preparation

open Workspace

variable {p : Preparation} {w v : Workspace}

/-- See to it. -/
def prepare : Preparation → Step DeviceError Workspace Unit
  | room s => do let _ ← ensureAllocated s
  | program k => do let _ ← onContext (Context.compile k)

/-- It was seen to. -/
def Done (w : Workspace) : Preparation → Prop
  | room s => ∃ id, w.table.block? s = some id
  | program k => ∃ q, w.machine.context.program? (w.key k) = some q

/-- `v` is `w` after it was seen to, if that was necessary. -/
inductive After : Preparation → Workspace → Workspace → Prop where
  /-- the slot has device memory -/
  | there {w : Workspace} {s : SlotId} {id : BlockId} (h : w.table.block? s = some id) :
    After (room s) w w
  /-- the pool had a block for it -/
  | made {w : Workspace} {s : SlotId} {id : BlockId} {p : Pool} (hw : w.Stocked)
    (hs : w.table.Has s) (hnone : (w.table.get s).isAllocated = false)
    (h : w.pool.alloc (w.host s).byteLen true = (.ok id, p)) : After (room s) w (w.housed s id p)
  /-- there is a program -/
  | known {w : Workspace} {k : Kernel} {q : Program}
    (h : w.machine.context.program? (w.key k) = some q) : After (program k) w w
  /-- the kernel can be compiled -/
  | compiled {w : Workspace} {k : Kernel}
    (hnone : w.machine.context.program? (w.key k) = none)
    (hk : k.compilable w.device.target = .ok ()) : After (program k) w (w.compiled k)

/-- A slot without device memory is not one that has some. -/
theorem ne_of_block? {s s' : SlotId} {id : BlockId} (hnone : (w.table.get s).isAllocated = false)
    (hs' : w.table.block? s' = some id) : s' ≠ s := by
  rintro rfl
  rw [isAllocated_iff.mpr ⟨id, hs'⟩] at hnone
  cases hnone

namespace After

theorem refl (h : Done w p) : After p w w := by
  cases p with
  | room s =>
    obtain ⟨id, hid⟩ := h
    exact .there hid
  | program k =>
    obtain ⟨q, hq⟩ := h
    exact .known hq

/-- What was seen to before is not done again. -/
theorem eq_of_done (h : After p w v) (hd : Done w p) : v = w := by
  cases h with
  | there _ => rfl
  | made hw hs hnone h =>
    rw [isAllocated_iff.mpr hd] at hnone
    cases hnone
  | known _ => rfl
  | compiled hnone hk =>
    obtain ⟨q, hq⟩ := hd
    rw [hnone] at hq
    cases hq

theorem done (h : After p w v) : Done v p := by
  cases h with
  | there h => exact ⟨_, h⟩
  | @made _ s id _ hw hs hnone h =>
    exact ⟨id, block?_eq_some.mpr ⟨_, congrArg Slot.allocation (SlotTable.get_set_self hs), rfl⟩⟩
  | known h => exact ⟨_, h⟩
  | compiled hnone hk => exact ⟨_, Context.program?_insert_self _ _ _⟩

/-- Whoever has a block on loan keeps it. -/
theorem keeps (h : After p w v) : Pool.Keeps w.pool v.pool := by
  cases h with
  | made hw hs hnone h => exact (Pool.alloc_inv hw.pool h).2.1
  | _ => exact .refl _

/-- Seeing to it succeeds. -/
theorem prepare_eq (h : After p w v) : p.prepare w = (.ok (), v) := by
  cases h with
  | there h =>
    rw [prepare, bind_of_ok (ensureAllocated_of_block? h)]
    rfl
  | @made _ s id q hw hs hnone h =>
    have hroom : ensureAllocated s w = (.ok true, w.housed s id q) := by
      rw [ensureAllocated_apply, if_neg (by simp [hnone]), allocate_of_alloc h]
      rfl
    rw [prepare, bind_of_ok hroom]
    rfl
  | known h =>
    rw [prepare, bind_of_ok (compile_of_program? h)]
    rfl
  | @compiled _ k hnone hk =>
    have hcompile : onContext (Context.compile k) w =
        (.ok ⟨w.machine.context.issued, k⟩, w.compiled k) := by
      rw [compile_apply, hnone]
      dsimp only
      rw [hk]
    rw [prepare, bind_of_ok hcompile]
    rfl

/-- There is no other way to see to it with success. -/
theorem of_prepare (hw : w.Stocked) (hs : ∀ s, p = room s → w.table.Has s)
    (h : p.prepare w = (.ok (), v)) : After p w v := by
  cases p with
  | room s =>
    obtain ⟨b, w', hroom, hv⟩ := bind_eq_ok h
    obtain rfl : w' = v := congrArg Prod.snd hv
    cases hnone : (w.table.get s).isAllocated with
    | true =>
      obtain ⟨id, hid⟩ := isAllocated_iff.mp hnone
      rw [ensureAllocated_of_block? hid] at hroom
      cases hroom
      exact .there hid
    | false =>
      rw [ensureAllocated_apply, if_neg (by simp [hnone])] at hroom
      rcases hp : w.pool.alloc (w.host s).byteLen true with ⟨e | id, q⟩ <;>
        rw [allocate_of_alloc hp] at hroom <;> cases hroom
      exact .made hw (hs s rfl) hnone hp
  | program k =>
    obtain ⟨q, w', hcompile, hv⟩ := bind_eq_ok h
    obtain rfl : w' = v := congrArg Prod.snd hv
    rw [compile_apply] at hcompile
    rcases hq : w.machine.context.program? (w.key k) with _ | q' <;> rw [hq] at hcompile
    · rcases hk : k.compilable w.device.target with e | u <;> rw [hk] at hcompile <;> cases hcompile
      exact .compiled hq hk
    · cases hcompile
      exact .known hq

end After

/-- Nobody who keeps to slots that have device memory notices what was seen to. -/
theorem veil_after (p : Preparation) : Veil (After p) where
  hosts w v h := by cases h <;> rfl
  target w v h := by cases h <;> rfl
  faults w v h := by cases h <;> rfl
  tally w v h := by cases h <;> rfl
  program w v key q h hq := by
    cases h with
    | @compiled _ k hnone hk =>
      have hne : key ≠ w.key k := by
        rintro rfl
        rw [hnone] at hq
        cases hq
      exact (Context.program?_insert_ne _ _ hne).trans hq
    | _ => exact hq
  slot w v s id h hs := by
    cases h with
    | @made _ s₀ _ _ hw hs₀ hnone h => exact SlotTable.get_set_ne (ne_of_block? hnone hs)
    | _ => rfl
  block w v id h hid := by
    cases h with
    | @made _ s₀ _ _ hw hs₀ hnone h =>
      obtain ⟨s, hs⟩ := hid
      obtain ⟨b, hb⟩ := hw.lends s id hs
      exact (((Pool.alloc_inv hw.pool h).2.1.lends id b hb).1).trans hb.1.symm
    | _ => rfl
  edit w v e h he := by
    cases h with
    | there h => exact .there h
    | made hw hs₀ hnone h =>
      rw [housed_withDevice]
      exact .made (hw.edit he) hs₀ hnone (hw.alloc_edit he h)
    | known h => cases e <;> exact .known h
    | compiled hnone hk => cases e <;> exact .compiled hnone hk
  setHost w v s id b h hs ht hl := by
    cases h with
    | there h => exact .there h
    | @made _ s₀ _ _ hw hs₀ hnone h =>
      obtain ⟨htype, hlen⟩ := host_setHost ht hl s₀
      rw [housed_setHost (ne_of_block? hnone hs) ht hl]
      refine .made ⟨hw.pool, hw.lends⟩ hs₀ hnone ?_
      rw [HostBuffer.byteLen, htype, hlen]
      exact h
    | known h => exact .known h
    | compiled hnone hk => exact .compiled hnone hk
  setSynced w v s id n h hs := by
    cases h with
    | there h => exact .there ((SlotTable.block?_set (by rfl) _).trans h)
    | @made _ s₀ _ _ hw hs₀ hnone h =>
      have hne := ne_of_block? hnone hs
      have hget : (w.setSlot s { w.table.get s with synced := some n }).table.get s₀ =
          w.table.get s₀ := SlotTable.get_set_ne hne.symm
      rw [housed_setSynced hne]
      refine .made (hw.setSynced s n) (SlotTable.has_set.mpr hs₀) (by rw [hget]; exact hnone) ?_
      rw [host, hget]
      exact h
    | known h => exact .known h
    | compiled hnone hk => exact .compiled hnone hk

end Preparation

end Offload
