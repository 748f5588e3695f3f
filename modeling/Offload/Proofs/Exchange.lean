import Offload.Proofs.Transfer

/-!
# Exchanges of buffers

A slot table grows when buffers are bound, a slot gets another buffer when it is rebound, and it
loses its device memory when it is released. None of this ever fails for want of memory.

* `Workspace.Sound.withTable` — a table that has grown.
* `Workspace.rebind_inv` — an exchange, or a refusal that changes nothing.
* `Workspace.Sound.release`, `Workspace.Sound.releaseAll` — giving up device memory.
-/

namespace Offload

namespace SlotTable

variable {t : SlotTable} {P : HostId → Prop}

/-- What holds for the buffers that have slots and for a buffer that is bound holds for all
buffers that have slots then. -/
theorem forall_host_bind {h : HostId} (ht : ∀ s, t.Has s → P (t.get s).host) (hh : P h) (s : SlotId)
    (hs : (t.bind h).2.Has s) : P ((t.bind h).2.get s).host := by
  rcases hslot : t.slotOf? h with _ | s₀
  · rw [bind_of_none hslot] at hs ⊢
    rw [get_push]
    split
    · exact hh
    · rename_i hne
      refine ht s ?_
      simp only [Has, Array.size_push] at hs ⊢
      omega
  · rw [bind_of_some hslot] at hs ⊢
    exact ht s hs

theorem forall_host_bindAll {hs : List HostId} (ht : ∀ s, t.Has s → P (t.get s).host)
    (hh : ∀ h ∈ hs, P h) (s : SlotId) (h : (t.bindAll hs).2.Has s) :
    P ((t.bindAll hs).2.get s).host := by
  induction hs generalizing t with
  | nil => exact ht s h
  | cons h₀ r ih =>
    exact ih (forall_host_bind ht (hh h₀ List.mem_cons_self))
      (fun h' hmem => hh h' (List.mem_cons_of_mem _ hmem)) h

end SlotTable

namespace Workspace

variable {w w' : Workspace} {s : SlotId}

/-! ### Binding -/

/-- A table that has grown by buffers that were made is sound, and no slot is touched. -/
theorem Sound.withTable {t : SlotTable} (hw : w.Sound) (hg : w.table.Grows t) (ht : t.Inverse)
    (hb : ∀ s, t.Has s → w.hosts.Has (t.get s).host) :
    Sound { w with table := t } ∧ Advances (fun _ => False) w { w with table := t } := by
  -- new slots have no blocks
  have hblock : ∀ s id, t.block? s = some id → w.table.block? s = some id := by
    intro s id hs
    by_cases hold : w.table.Has s
    · rwa [SlotTable.block?, hg.old s hold] at hs
    · rw [SlotTable.block?, (hg.fresh s hold).1] at hs
      cases hs
  refine ⟨?_, ?_⟩
  · refine ⟨hw.pool, ht, hb, ?_, ?_, ?_⟩
    · intro s a ha
      by_cases hold : w.table.Has s
      · have ha' : (w.table.get s).allocation = some a := hg.old s hold ▸ ha
        simp only [host, hg.old s hold]
        exact hw.room s a ha'
      · have hnone := (hg.fresh s hold).1.symm.trans ha
        cases hnone
    · intro s s' id h h'
      exact hw.apart s s' id (hblock s id h) (hblock s' id h')
    · intro s v hv
      by_cases hold : w.table.Has s
      · have hv' : (w.table.get s).synced = some v := hg.old s hold ▸ hv
        simp only [host, hg.old s hold]
        exact hw.synced s v hv'
      · have hnone := (hg.fresh s hold).2.symm.trans hv
        cases hnone
  · refine ⟨.refl _, .refl _, fun s hs => hg.has hs, ?_, ?_, fun id b _ h => h, ?_⟩
    · intro s hs
      simp only [host, hg.old s hs]
    · intro s id h
      exact .inl ⟨s, hblock s id h⟩
    · intro s _ hc hsync
      by_cases hold : w.table.Has s
      · simp only [host, deviceBytes, SlotTable.block?, hg.old s hold] at hsync ⊢
        exact hc hsync
      · have hnone := (hg.fresh s hold).2.symm.trans hsync
        cases hnone

/-- Binding a buffer that was made. -/
theorem Sound.bind {h : HostId} (hw : w.Sound) (hh : w.hosts.Has h) :
    Sound { w with table := (w.table.bind h).2 } ∧
      Advances (fun _ => False) w { w with table := (w.table.bind h).2 } :=
  hw.withTable (w.table.grows_bind h) (hw.table.bind h) (SlotTable.forall_host_bind hw.bound hh)

/-- Binding buffers that were made. -/
theorem Sound.bindAll {hs : List HostId} (hw : w.Sound) (hh : ∀ h ∈ hs, w.hosts.Has h) :
    Sound { w with table := (w.table.bindAll hs).2 } ∧
      Advances (fun _ => False) w { w with table := (w.table.bindAll hs).2 } :=
  hw.withTable (w.table.grows_bindAll hs) (hw.table.bindAll hs)
    (SlotTable.forall_host_bindAll hw.bound hh)

/-! ### Giving up device memory -/

@[simp] theorem hosts_drop (w : Workspace) (a : Option Allocation) :
    (w.drop a).hosts = w.hosts := by
  cases a <;> rfl

@[simp] theorem table_drop (w : Workspace) (a : Option Allocation) :
    (w.drop a).table = w.table := by
  cases a <;> rfl

theorem table_release (w : Workspace) (s : SlotId) :
    (w.release s).table = w.table.set s (.fresh (w.table.get s).host) := by
  rw [release, setSlot, table_drop]

/-- Only the block of the slot is taken back when its memory is given up. -/
theorem Sound.drop (hw : w.Sound) (s : SlotId) :
    (w.drop (w.table.get s).allocation).pool.Sound ∧
      w.device.Continues (w.drop (w.table.get s).allocation).device ∧
      ∀ id b, w.table.block? s ≠ some id → w.pool.Lends id b →
        (w.drop (w.table.get s).allocation).pool.Lends id b := by
  rcases ha : (w.table.get s).allocation with _ | a
  · exact ⟨hw.pool, .refl _, fun _ _ _ h => h⟩
  -- the block goes back to the pool, which keeps it or frees it
  · obtain ⟨-, -, id, b, hid, hb, -⟩ := hw.room s a ha
    obtain ⟨hsound, hother, hcap, hkeep⟩ := Pool.free_inv hw.pool hb
    have hrelease : w.pool.release a = w.pool.free id := by
      rw [Pool.release, hid]
    have hpool : (w.drop (some a)).pool = w.pool.free id := hrelease
    refine ⟨hpool ▸ hsound, ⟨rfl, rfl, ?_, ?_, fun _ => Nat.le_refl _⟩, ?_⟩
    · exact (congrArg (fun p : Pool => p.arena.capacity) hpool).trans hcap
    · exact (congrArg Pool.keep hpool).trans hkeep
    · intro id' b' hne hb'
      rw [hpool]
      exact hother id' b' (fun he => hne (he ▸ block?_eq_some.mpr ⟨a, ha, hid⟩)) hb'

/-- Releasing a slot leaves it without device memory. -/
theorem Sound.revises_release (hw : w.Sound) (s : SlotId) :
    Revises s (.fresh (w.table.get s).host) w (w.release s) := by
  obtain ⟨hpool, hrules, hlends⟩ := hw.drop s
  have hhosts : (w.release s).hosts = w.hosts := hosts_drop _ _
  have htable := table_release w s
  exact
    { hosts := hhosts ▸ .refl _
      pool := hpool
      rules := hrules
      lends := hlends
      table := htable ▸ hw.table.set rfl
      get := fun _ => by rw [htable]
      has := fun _ => by rw [htable, SlotTable.has_set]
      bound := fun hs => hhosts ▸ hw.bound s hs
      type := fun _ => by rw [hhosts]; rfl
      room := fun _ ha => by cases ha
      origin := fun _ _ ha => by cases ha
      synced := fun _ hv => by cases hv
      clean := fun hs => clean_of_synced (by rw [htable, SlotTable.get_set_self hs]; rfl) }

theorem Sound.release (hw : w.Sound) (s : SlotId) :
    (w.release s).Sound ∧ Advances (fun _ => False) w (w.release s) :=
  ⟨(hw.revises_release s).sound hw, (hw.revises_release s).advances hw _⟩

/-- Releasing slots one after the other. -/
theorem Sound.foldl_release (ns : List Nat) (hw : w.Sound) :
    (ns.foldl (fun w i => w.release ⟨i⟩) w).Sound ∧
      Advances (fun _ => False) w (ns.foldl (fun w i => w.release ⟨i⟩) w) := by
  induction ns generalizing w with
  | nil => exact ⟨hw, .refl _ w⟩
  | cons n ns ih =>
    obtain ⟨hsound, hadv⟩ := hw.release ⟨n⟩
    obtain ⟨hsound', hadv'⟩ := ih hsound
    exact ⟨hsound', hadv.trans hadv'⟩

theorem has_foldl_release (ns : List Nat) (w : Workspace) (s : SlotId) :
    (ns.foldl (fun w i => w.release ⟨i⟩) w).table.Has s ↔ w.table.Has s := by
  induction ns generalizing w with
  | nil => exact Iff.rfl
  | cons n ns ih =>
    refine (ih _).trans ?_
    rw [table_release, SlotTable.has_set]

theorem Sound.releaseAll (hw : w.Sound) :
    w.releaseAll.Sound ∧ Advances (fun _ => False) w w.releaseAll :=
  hw.foldl_release _

/-! ### Rebinding -/

/-- Two buffers of one type and of one size have as many elements. -/
theorem len_eq_of_byteLen {h h' : HostBuffer} (ht : h'.type = h.type)
    (hb : h'.byteLen = h.byteLen) : h'.len = h.len := by
  rw [HostBuffer.byteLen, HostBuffer.byteLen, ht] at hb
  exact Nat.eq_of_mul_eq_mul_left h.wide hb

/-- The workspace after an exchange. -/
def rebound (w : Workspace) (old new : HostId) (s : SlotId) : Workspace :=
  if (w.hosts.get new).byteLen = (w.host s).byteLen then
    { w with table := w.table.replace old new s ⟨new, (w.table.get s).allocation, none⟩ }
  else
    { w.drop (w.table.get s).allocation with table := w.table.replace old new s (.fresh new) }

/-- A buffer can be exchanged for another one of the same element type that has no other slot;
anything else is refused. -/
theorem rebind_apply (old new : HostId) (w : Workspace) :
    rebind old new w =
      match w.table.slotOf? old with
      | none => (.error (.unboundBuffer old), w)
      | some s =>
        if new ≠ old ∧ (w.table.slotOf? new).isSome then
          (.error (.incompatibleReference
            ("buffer " ++ new.text ++ " is already bound to another slot")), w)
        else if (w.hosts.get new).type ≠ (w.host s).type then
          (.error (.incompatibleReference ("element type " ++ (w.hosts.get new).type.name ++
            " does not match bound type " ++ (w.host s).type.name)), w)
        else (.ok s, w.rebound old new s) := by
  rw [rebind, Step.bind_apply, Step.get_apply]
  dsimp only
  rcases w.table.slotOf? old with _ | s
  · rfl
  · dsimp only
    by_cases hbound : new ≠ old ∧ (w.table.slotOf? new).isSome
    · rw [if_pos hbound, if_pos hbound]
      rfl
    · rw [if_neg hbound, if_neg hbound]
      by_cases htype : (w.hosts.get new).type ≠ (w.host s).type
      · rw [if_pos htype, if_pos htype]
        rfl
      · rw [if_neg htype, rebound]
        by_cases hsize : (w.hosts.get new).byteLen = (w.host s).byteLen
        · simp [htype, hsize, Step.bind_apply]
        · simp [htype, hsize, Step.bind_apply, Slot.fresh]

/-- The slot after an exchange. -/
def reboundSlot (w : Workspace) (new : HostId) (s : SlotId) : Slot :=
  if (w.hosts.get new).byteLen = (w.host s).byteLen then ⟨new, (w.table.get s).allocation, none⟩
  else .fresh new

/-- An exchange is a step on the slot of the buffer. -/
theorem Sound.revises_rebound {old new : HostId} (hw : w.Sound) (hnew : w.hosts.Has new)
    (hs : w.table.slotOf? old = some s) (hfree : new ≠ old → w.table.slotOf? new = none)
    (ht : (w.hosts.get new).type = (w.host s).type) :
    Revises s (w.reboundSlot new s) w (w.rebound old new s) := by
  obtain ⟨hpool, hrules, hlends⟩ := hw.drop s
  rw [rebound, reboundSlot]
  split
  · rename_i hsize
    exact
      { hosts := .refl _
        pool := hw.pool
        rules := .refl _
        lends := fun _ _ _ h => h
        table := hw.table.replace hs hfree rfl
        get := fun _ => rfl
        has := fun _ => SlotTable.has_replace
        bound := fun _ => hnew
        type := fun _ => ht
        room := fun a ha => by
          -- the elements have one type, so as many of them fill the same bytes
          obtain ⟨hat, hal, id, b, hid, hb, hb'⟩ := hw.room s a ha
          have hlen := len_eq_of_byteLen ht hsize
          exact ⟨hat.trans ht.symm, hal.trans hlen.symm, id, b, hid, hb, hb'.trans hsize.symm⟩
        origin := fun a id ha hid => .inl (block?_eq_some.mpr ⟨a, ha, hid⟩)
        synced := nofun
        clean := fun hhas => clean_of_synced (congrArg Slot.synced (SlotTable.get_set_self hhas)) }
  · have hhosts := hosts_drop w (w.table.get s).allocation
    exact
      { hosts := hhosts ▸ .refl _
        pool := hpool
        rules := hrules
        lends := hlends
        table := hw.table.replace hs hfree rfl
        get := fun _ => rfl
        has := fun _ => SlotTable.has_replace
        bound := fun _ => (congrArg (HostMemory.Has · new) hhosts).mpr hnew
        type := fun _ => (congrArg (fun m => (HostMemory.get m new).type) hhosts).trans ht
        room := nofun
        origin := nofun
        synced := nofun
        clean := fun hhas => clean_of_synced (congrArg Slot.synced (SlotTable.get_set_self hhas)) }

/-- An exchange is carried out or refused. A refusal changes nothing. -/
theorem rebind_inv {old new : HostId} {r : Except DeviceError SlotId} (hw : w.Sound)
    (hnew : w.hosts.Has new) (h : rebind old new w = (r, w')) :
    (∃ s, r = .ok s ∧ w.table.slotOf? old = some s ∧ (new ≠ old → w.table.slotOf? new = none) ∧
        w' = w.rebound old new s ∧ Revises s (w.reboundSlot new s) w w') ∨
      ((r = .error (.unboundBuffer old) ∨ ∃ reason, r = .error (.incompatibleReference reason)) ∧
        w' = w) := by
  rw [rebind_apply] at h
  rcases hs : w.table.slotOf? old with _ | s <;> rw [hs] at h
  · cases h
    exact .inr ⟨.inl rfl, rfl⟩
  · dsimp only at h
    split at h
    · cases h
      exact .inr ⟨.inr ⟨_, rfl⟩, rfl⟩
    · rename_i hbound
      split at h
      · cases h
        exact .inr ⟨.inr ⟨_, rfl⟩, rfl⟩
      · rename_i htype
        cases h
        have hfree : new ≠ old → w.table.slotOf? new = none := fun hne =>
          Option.not_isSome_iff_eq_none.mp fun hsome => hbound ⟨hne, hsome⟩
        exact .inl ⟨s, rfl, rfl, hfree, rfl,
          hw.revises_rebound hnew hs hfree (Classical.not_not.mp htype)⟩

/-- Whether an exchange is carried out or refused, the workspace stays sound. -/
theorem Sound.rebind {old new : HostId} (hw : w.Sound) (hnew : w.hosts.Has new) :
    (rebind old new w).2.Sound ∧ Advances (fun _ => False) w (rebind old new w).2 := by
  rcases h : Workspace.rebind old new w with ⟨r, w'⟩
  obtain ⟨s, -, -, -, -, hrev⟩ | ⟨-, rfl⟩ := rebind_inv hw hnew h
  · exact ⟨hrev.sound hw, hrev.advances hw _⟩
  · exact ⟨hw, .refl _ _⟩

/-- An exchange makes no slots. -/
theorem has_rebind (old new : HostId) (w : Workspace) (s : SlotId) :
    (Workspace.rebind old new w).2.table.Has s ↔ w.table.Has s := by
  rw [rebind_apply]
  split
  · exact Iff.rfl
  · split
    · exact Iff.rfl
    · split
      · exact Iff.rfl
      · rw [rebound]
        split <;> exact SlotTable.has_replace

end Workspace

end Offload
