import Mathlib.Data.List.Nodup
import Offload.Proofs.Ownership

/-!
# Memory for all slots

A device has enough memory for a workspace when all slots together fit beside the blocks that others
have. This stays so whatever is done for the slots, and as long as it is so no slot is refused room.

* `Workspace.Ample` — there is enough memory.
* `Workspace.Ample.advances` — there still is.
* `Workspace.Ample.ensureAllocated_ok` — so a slot gets room.
-/

namespace Offload

/-- Terms that stay below others add up to less than these. -/
theorem sum_le {f g : Nat → Nat} {xs : List Nat} (h : ∀ x ∈ xs, f x ≤ g x) :
    (xs.map f).sum ≤ (xs.map g).sum := by
  induction xs with
  | nil => exact Nat.le_refl _
  | cons x r ih =>
    simp only [List.map_cons, List.sum_cons]
    exact Nat.add_le_add (h x List.mem_cons_self) (ih fun y hy => h y (List.mem_cons_of_mem _ hy))

/-- They do so by as much as one of them stays below. -/
theorem sum_add_le {f g : Nat → Nat} {xs : List Nat} (h : ∀ x ∈ xs, f x ≤ g x) {x : Nat}
    (hx : x ∈ xs) (hzero : f x = 0) : (xs.map f).sum + g x ≤ (xs.map g).sum := by
  induction xs with
  | nil => exact absurd hx List.not_mem_nil
  | cons y r ih =>
    have hy := h y List.mem_cons_self
    have hr : ∀ z ∈ r, f z ≤ g z := fun z hz => h z (List.mem_cons_of_mem _ hz)
    simp only [List.map_cons, List.sum_cons]
    rcases List.mem_cons.mp hx with rfl | hx
    · have hsum := sum_le hr
      omega
    · have hsum := ih hr hx
      omega

/-- Terms for some members of a list, each of them taken once, add up to no more than those for all
members. -/
theorem sum_le_of_subset {α : Type} [DecidableEq α] {f : α → Nat} {xs ys : List α} (hx : xs.Nodup)
    (h : ∀ x ∈ xs, x ∈ ys) : (xs.map f).sum ≤ (ys.map f).sum := by
  induction xs generalizing ys with
  | nil => exact Nat.zero_le _
  | cons x r ih =>
    obtain ⟨hnew, hr⟩ := List.nodup_cons.mp hx
    have hperm := List.perm_cons_erase (h x List.mem_cons_self)
    have hrest : ∀ y ∈ r, y ∈ ys.erase x := fun y hy =>
      (List.mem_erase_of_ne (ne_of_mem_of_not_mem hy hnew)).mpr
        (h y (List.mem_cons_of_mem _ hy))
    rw [(hperm.map f).sum_nat]
    simp only [List.map_cons, List.sum_cons]
    exact Nat.add_le_add_left (ih hr hrest) _

theorem Arena.total_flatMap (m : Arena) (f : Nat → List BlockId) (xs : List Nat) :
    m.total (xs.flatMap f) = (xs.map fun x => m.total (f x)).sum := by
  induction xs with
  | nil => rfl
  | cons x r ih => rw [List.flatMap_cons, total_append, ih, List.map_cons, List.sum_cons]

/-- The blocks of all slots, by the numbers of the slots. -/
theorem SlotTable.owned_eq (t : SlotTable) :
    t.owned = (List.range t.slots.size).flatMap fun i => (t.get ⟨i⟩).blocks := by
  have hslots : t.slots.toList = (List.range t.slots.size).map fun i => t.get ⟨i⟩ := by
    refine List.ext_getElem (by simp) fun i hi hi' => ?_
    have hlt : i < t.slots.size := by simpa using hi
    simp [get, Array.getD, hlt]
  rw [owned, hslots, List.flatMap_map]

namespace Workspace

variable {w w' : Workspace} {s : SlotId}

/-- What the buffers in all slots take up together. -/
def demand (w : Workspace) : Nat :=
  ((List.range w.table.slots.size).map fun i => (w.host ⟨i⟩).byteLen).sum

/-- Only buffers of a list are in slots, each in one of them at most. -/
theorem demand_le {buffers : List HostId} (ht : w.table.Inverse)
    (h : ∀ s, w.table.Has s → (w.table.get s).host ∈ buffers) :
    w.demand ≤ (buffers.map fun b => (w.machine.hosts.get b).byteLen).sum := by
  have hhas : ∀ i ∈ List.range w.table.slots.size, w.table.Has ⟨i⟩ := fun i hi =>
    List.mem_range.mp hi
  have hnodup : ((List.range w.table.slots.size).map fun i => (w.table.get ⟨i⟩).host).Nodup := by
    refine List.Nodup.map_on (fun i hi j hj he => ?_) List.nodup_range
    exact congrArg SlotId.index (ht.host_injective (hhas i hi) (hhas j hj) he)
  have hmem : ∀ b ∈ (List.range w.table.slots.size).map fun i => (w.table.get ⟨i⟩).host,
      b ∈ buffers := by
    intro b hb
    obtain ⟨i, hi, rfl⟩ := List.mem_map.mp hb
    exact h ⟨i⟩ (hhas i hi)
  have hsum := sum_le_of_subset (f := fun b => (w.machine.hosts.get b).byteLen) hnodup hmem
  rwa [List.map_map] at hsum

/-- There is memory for the buffers in all slots beside the blocks of others. -/
def Ample (w : Workspace) : Prop :=
  ∃ limit keep others, w.pool.Balanced limit keep (w.table.owned ++ others) ∧
    ∀ c, limit = some c → w.pool.arena.total others + w.demand ≤ c

/-- The block of a slot, if there is one, has the size of the buffer. -/
theorem Sound.total_blocks (hw : w.Sound) (s : SlotId) :
    w.pool.arena.total (w.table.get s).blocks ≤ (w.host s).byteLen := by
  rcases hid : w.table.block? s with _ | id
  · have hnone : (w.table.get s).blocks = [] := by
      rw [Slot.blocks, show (w.table.get s).allocation.bind Allocation.block = none from hid]
      rfl
    rw [hnone]
    exact Nat.zero_le _
  · have hsome : (w.table.get s).blocks = [id] := by
      rw [Slot.blocks, show (w.table.get s).allocation.bind Allocation.block = some id from hid]
      rfl
    obtain ⟨b, hb, hsize⟩ := hw.lends hid
    rw [hsome, Arena.total_cons (Arena.size?_of_get? hb.1), hsize]
    exact Nat.le_refl _

/-- What the slots have leaves room for one that has nothing. -/
theorem Sound.total_owned (hw : w.Sound) (hs : w.table.Has s)
    (hnone : ¬ (w.table.get s).isAllocated = true) :
    w.pool.arena.total w.table.owned + (w.host s).byteLen ≤ w.demand := by
  have hempty : (w.table.get s).blocks = [] := by
    rw [Slot.blocks, hw.allocation_eq_none (by simpa using hnone)]
    rfl
  have hzero : w.pool.arena.total (w.table.get s).blocks = 0 := by
    rw [hempty]
    rfl
  rw [SlotTable.owned_eq, Arena.total_flatMap]
  exact sum_add_le (f := fun i => w.pool.arena.total (w.table.get ⟨i⟩).blocks)
    (g := fun i => (w.host ⟨i⟩).byteLen) (fun i _ => hw.total_blocks ⟨i⟩)
    (List.mem_range.mpr hs) hzero

namespace Ample

/-- A slot gets room. -/
theorem ensureAllocated_ok (h : w.Ample) (hw : w.Sound) (hs : w.table.Has s) :
    ∃ u w', ensureAllocated s w = (.ok u, w') := by
  rw [ensureAllocated_apply]
  split
  · exact ⟨false, w, rfl⟩
  · rename_i hnone
    obtain ⟨limit, keep, others, hbooks, hroom⟩ := h
    rcases hp : w.pool.alloc (w.host s).byteLen true with ⟨r, p⟩
    obtain ⟨-, ⟨id, rfl, -⟩ | ⟨-, -, c, hc, hlt⟩⟩ := hbooks.alloc hp
    · rw [allocate_of_alloc hp]
      exact ⟨true, _, rfl⟩
    · -- the request would not have exceeded the limit
      have howned := hw.total_owned hs hnone
      have hfits := hroom c hc
      rw [Arena.total_append] at hlt
      omega

/-- There is still memory for all slots after a step that leaves the buffers in their slots. -/
theorem advances {W : SlotId → Prop} (h : w.Ample) (hw : w.Sound) (hb : w.Balances w')
    (ha : Advances W w w') (hhas : ∀ s, w'.table.Has s ↔ w.table.Has s)
    (hhost : ∀ s, (w'.table.get s).host = (w.table.get s).host) : w'.Ample := by
  obtain ⟨limit, keep, others, hbooks, hroom⟩ := h
  refine ⟨limit, keep, others, hb.books limit keep others hbooks, fun c hc => ?_⟩
  have htotal : w'.pool.arena.total others = w.pool.arena.total others := by
    refine Arena.total_congr fun id hid => ?_
    have hout : id ∈ w.table.owned ++ others := List.mem_append_right _ hid
    obtain ⟨b, hb⟩ := Option.isSome_iff_exists.mp (Option.isSome_map.symm.trans
      ((hbooks.holds.mem id).mp (List.mem_append_left _ hout)))
    -- the block is on loan to others
    have hother : ∀ s, w.table.block? s ≠ some id := fun s hs =>
      (List.nodup_append.mp (List.nodup_append.mp hbooks.holds.nodup).1).2.2 id
        (SlotTable.mem_owned.mpr ⟨s, hs⟩) id hid rfl
    have hlends := ha.others id b hother ⟨hb, hbooks.not_mem_keptIds hout⟩
    rw [Arena.size?_of_get? hlends.1, Arena.size?_of_get? hb]
  have hsize : w'.table.slots.size = w.table.slots.size := by
    have hlt := fun i => hhas ⟨i⟩
    simp only [SlotTable.Has] at hlt
    have h₁ := hlt w.table.slots.size
    have h₂ := hlt w'.table.slots.size
    omega
  have hdemand : w'.demand = w.demand := by
    rw [demand, demand, hsize]
    refine congrArg List.sum (List.map_congr_left fun i hi => ?_)
    rw [host, hhost]
    exact ha.hosts.byteLen (hw.bound ⟨i⟩ (List.mem_range.mp hi))
  rw [htotal, hdemand]
  exact hroom c hc

end Ample

end Workspace

end Offload
