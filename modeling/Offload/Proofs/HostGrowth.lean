import Offload.Host.Buffer

/-!
# How host memory grows

Whatever is done to host memory, no buffer is lost, and none changes its type or its length. Its
version never falls, and as long as the version stays the same the bytes do.

* `HostMemory.Extends` — the one memory comes after the other.
* `HostAction` — what anyone may do to host memory at any time.
-/

namespace Offload

namespace HostMemory

variable {m m' m'' : HostMemory} {id : HostId} {b : HostBuffer}

/-- The buffer was made. -/
def Has (m : HostMemory) (id : HostId) : Prop := id.index < m.buffers.size

/-- `m'` comes after `m`. -/
structure Extends (m m' : HostMemory) : Prop where
  /-- no buffer is lost -/
  size : m.buffers.size ≤ m'.buffers.size
  /-- a buffer keeps its type -/
  type : ∀ id, m.Has id → (m'.get id).type = (m.get id).type
  /-- a buffer keeps its length -/
  len : ∀ id, m.Has id → (m'.get id).len = (m.get id).len
  /-- versions do not fall -/
  version : ∀ id, m.Has id → (m.get id).version ≤ (m'.get id).version
  /-- the same version of a buffer has the same bytes -/
  bytes : ∀ id, m.Has id → (m'.get id).version = (m.get id).version →
    (m'.get id).bytes = (m.get id).bytes

namespace Extends

theorem refl (m : HostMemory) : Extends m m :=
  ⟨Nat.le_refl _, fun _ _ => rfl, fun _ _ => rfl, fun _ _ => Nat.le_refl _, fun _ _ _ => rfl⟩

theorem has (h : Extends m m') (hid : m.Has id) : m'.Has id := Nat.lt_of_lt_of_le hid h.size

theorem trans (h₁ : Extends m m') (h₂ : Extends m' m'') : Extends m m'' where
  size := Nat.le_trans h₁.size h₂.size
  type id hid := (h₂.type id (h₁.has hid)).trans (h₁.type id hid)
  len id hid := (h₂.len id (h₁.has hid)).trans (h₁.len id hid)
  version id hid := Nat.le_trans (h₁.version id hid) (h₂.version id (h₁.has hid))
  bytes id hid heq := by
    have h1 := h₁.version id hid
    have h2 := h₂.version id (h₁.has hid)
    have hmid : (m'.get id).version = (m.get id).version := by omega
    exact (h₂.bytes id (h₁.has hid) (by omega)).trans (h₁.bytes id hid hmid)

/-- A buffer keeps its size in bytes. -/
theorem byteLen (h : Extends m m') (hid : m.Has id) :
    (m'.get id).byteLen = (m.get id).byteLen := by
  rw [HostBuffer.byteLen, HostBuffer.byteLen, h.type id hid, h.len id hid]

/-- Making a buffer. -/
theorem insert (m : HostMemory) (b : HostBuffer) : Extends m (m.insert b).2 where
  size := by simp [HostMemory.insert]
  type id hid := by rw [get_insert_of_lt m b hid]
  len id hid := by rw [get_insert_of_lt m b hid]
  version id hid := Nat.le_of_eq (by rw [get_insert_of_lt m b hid])
  bytes id hid _ := by rw [get_insert_of_lt m b hid]

/-- Writing to a buffer, which raises its version. -/
theorem set (ht : b.type = (m.get id).type) (hl : b.len = (m.get id).len)
    (hv : (m.get id).version < b.version) : Extends m (m.set id b) where
  size := by simp [HostMemory.set]
  type id' hid := by
    by_cases he : id' = id
    · subst he
      rw [get_set_self b hid, ht]
    · rw [get_set_ne m b he]
  len id' hid := by
    by_cases he : id' = id
    · subst he
      rw [get_set_self b hid, hl]
    · rw [get_set_ne m b he]
  version id' hid := by
    by_cases he : id' = id
    · subst he
      rw [get_set_self b hid]
      exact Nat.le_of_lt hv
    · exact Nat.le_of_eq (by rw [get_set_ne m b he])
  bytes id' hid heq := by
    by_cases he : id' = id
    · -- the version has risen, whatever the bytes are now
      subst he
      rw [get_set_self b hid] at heq
      exact absurd heq (Nat.ne_of_gt hv)
    · rw [get_set_ne m b he]

end Extends

/-- A buffer that was not made yet is empty. -/
theorem get_of_not_has (h : ¬ m.Has id) : m.get id = default := by
  have : ¬ id.index < m.buffers.size := h
  simp [get, Array.getD, this]

/-- A buffer that was not made yet cannot be changed. -/
theorem set_of_not_has (h : ¬ m.Has id) : m.set id b = m := by
  simp only [Has, Nat.not_lt] at h
  rw [set, Array.setIfInBounds_eq_of_size_le h]

end HostMemory

/-! ### What anyone may do -/

/-- Something done to host memory. -/
inductive HostAction where
  /-- make a buffer -/
  | create (b : HostBuffer)
  /-- open a buffer for writing and store elements, which depend on what is there -/
  | edit (id : HostId) (edits : (b : HostBuffer) → List (Nat × b.type.Value))
  /-- open a buffer for writing and replace its first bytes -/
  | overwrite (id : HostId) (xs : List UInt8)

namespace HostAction

/-- What becomes of host memory. -/
def apply : HostAction → HostMemory → HostMemory
  | create b, m => (m.insert b).2
  | edit id edits, m => m.set id ((m.get id).edit (edits (m.get id))).2
  | overwrite id xs, m => m.set id ((m.get id).overwrite xs).2

/-- Nothing that is done to a buffer changes its type or its length. -/
theorem frame_edit (b : HostBuffer) (edits : List (Nat × b.type.Value)) :
    (b.edit edits).2.type = b.type ∧ (b.edit edits).2.len = b.len :=
  ⟨(HostBuffer.storeAll_frame b.touch _).1, (HostBuffer.storeAll_frame b.touch _).2.1⟩

theorem frame_overwrite (b : HostBuffer) (xs : List UInt8) :
    (b.overwrite xs).2.type = b.type ∧ (b.overwrite xs).2.len = b.len := by
  rw [HostBuffer.overwrite]
  split <;> exact ⟨rfl, rfl⟩

theorem extends_apply (a : HostAction) (m : HostMemory) : m.Extends (a.apply m) := by
  cases a with
  | create b => exact .insert m b
  | edit id edits =>
    obtain ⟨ht, hl⟩ := frame_edit (m.get id) (edits (m.get id))
    refine .set ht hl ?_
    rw [HostBuffer.version_edit]
    exact Nat.lt_succ_self _
  | overwrite id xs =>
    obtain ⟨ht, hl⟩ := frame_overwrite (m.get id) xs
    refine .set ht hl ?_
    rw [HostBuffer.version_overwrite]
    exact Nat.lt_succ_self _

end HostAction

end Offload
