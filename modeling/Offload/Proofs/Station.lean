import Mathlib.Data.List.Nodup
import Offload.Proofs.Ownership

/-!
# Everybody on one device

Any number of graphs and allocations share a device. Graphs are made, used, disposed of and thrown
away; allocations are made outside graphs, released and thrown away; the device is reset. Each
block that the device has handed out belongs to one of them, or is kept by the pool for later.

* `Station` — a device with everybody who has memory on it, and `Order`, what they do.
* `Station.Owns` — who has a block.
* `Station.Orderly.applyAll` — the books balance at all times.
* `Station.memory_is_owned` — every block has one owner, the memory in use is that of the blocks
  that are owned, and when nobody has a block any more, a reset leaves no memory in use.
-/

namespace Offload

/-- The block of an allocation, if it has one. -/
def Allocation.blocks (a : Allocation) : List BlockId := a.block.toList

/-- A device with everybody who uses it. -/
structure Station where
  /-- host memory, and the device with its programs -/
  machine : Machine
  /-- the graphs -/
  graphs : List Graph
  /-- the allocations that were made outside graphs -/
  loose : List Allocation

namespace Station

/-- The device. -/
def device (w : Station) : Device := w.machine.context.device

/-- The device in another state. -/
def withDevice (w : Station) (d : Device) : Station :=
  { w with machine.context.device := d }

/-- A device that nobody uses yet. -/
def start (limit : Option Nat) (keep : Nat) (faults : Call → Nat → Bool) (hosts : HostMemory) :
    Station where
  machine := ⟨hosts, .ofDevice { Device.cpu limit keep with faults }⟩
  graphs := []
  loose := []

end Station

/-- Something that is done on a device, by anybody. -/
inductive Order where
  /-- somebody makes or writes a host buffer -/
  | host (a : HostAction)
  /-- from now on the programs are those of another context -/
  | switch (c : Context)
  /-- a new graph -/
  | create (name : String)
  /-- a call of the `i`-th graph -/
  | call (i : Nat) (c : Command)
  /-- the `i`-th graph is thrown away, disposed of or not -/
  | discard (i : Nat)
  /-- a new allocation -/
  | allocate (t : ElementType) (len : Nat)
  /-- the `i`-th allocation is released -/
  | release (i : Nat)
  /-- the `i`-th allocation is thrown away, released or not -/
  | forget (i : Nat)
  /-- the device is reset -/
  | reset

namespace Order

/-- Carry out an order, successfully or not. There is nothing to do where nobody is meant. -/
def apply : Order → Station → Station
  | host a, w => { w with machine.hosts := a.apply w.machine.hosts }
  | switch c, w => { w with machine.context := { c with device := w.device } }
  | create name, w => { w with graphs := w.graphs ++ [.empty name] }
  | call i c, w => match w.graphs[i]? with
    | some g =>
      let s := (c.run ⟨w.machine, g⟩).2
      ⟨s.machine, w.graphs.set i s.graph, w.loose⟩
    | none => w
  | discard i, w => match w.graphs[i]? with
    | some g => ⟨(Graph.releaseAll ⟨w.machine, g⟩).machine, w.graphs.eraseIdx i, w.loose⟩
    | none => w
  | allocate t len, w => match Device.allocate t len w.device with
    | (.ok a, d) => { w.withDevice d with loose := w.loose ++ [a] }
    | (.error _, d) => w.withDevice d
  | release i, w => match w.loose[i]? with
    | some a => { w.withDevice (w.device.release a) with loose := w.loose.set i a.released }
    | none => w
  | forget i, w => match w.loose[i]? with
    | some a => { w.withDevice (w.device.release a) with loose := w.loose.eraseIdx i }
    | none => w
  | reset, w => w.withDevice (Device.reset w.device).2

end Order

/-- Somebody who can have a block. -/
inductive Owner where
  /-- a slot of the `i`-th graph -/
  | slot (i : Nat) (s : SlotId)
  /-- the `i`-th of the allocations that were made outside graphs -/
  | loose (i : Nat)
  /-- the pool, which keeps it for later -/
  | pool
deriving DecidableEq

namespace Station

/-- Carry out orders one after the other. -/
def applyAll (orders : List Order) (w : Station) : Station :=
  orders.foldl (fun w o => o.apply w) w

/-- Who has a block. -/
def Owns (w : Station) : Owner → BlockId → Prop
  | .slot i s, id => ∃ g, w.graphs[i]? = some g ∧ g.table.block? s = some id
  | .loose i, id => ∃ a, w.loose[i]? = some a ∧ a.block = some id
  | .pool, id => id ∈ w.device.pool.keptIds

/-- The blocks that are out. -/
def out (w : Station) : List BlockId :=
  w.graphs.flatMap (·.table.owned) ++ w.loose.flatMap Allocation.blocks

/-- All blocks, those that are out and those that are kept. -/
def holdings (w : Station) : List BlockId := w.out ++ w.device.pool.keptIds

/-- What holds between orders. -/
structure Orderly (limit : Option Nat) (keep : Nat) (faults : Call → Nat → Bool) (w : Station) :
    Prop where
  /-- the graphs are in order -/
  tidy : ∀ g ∈ w.graphs, g.Tidy
  /-- the books are balanced -/
  books : w.device.pool.Balanced limit keep w.out
  /-- calls of the device fail where it was said in the beginning -/
  faults : w.device.faults = faults

variable {limit : Option Nat} {keep : Nat} {faults : Call → Nat → Bool} {w : Station}

/-! ### Orders -/

/-- A graph has its blocks, and everybody else has theirs. -/
theorem perm_out {i : Nat} {g : Graph} (h : w.graphs[i]? = some g) :
    w.out.Perm (g.table.owned ++
      ((w.graphs.eraseIdx i).flatMap (·.table.owned) ++ w.loose.flatMap Allocation.blocks)) := by
  obtain ⟨hi, rfl⟩ := List.getElem?_eq_some_iff.mp h
  have hgraphs := (List.getElem_cons_eraseIdx_perm hi).symm.flatMap_right (·.table.owned)
  rw [List.flatMap_cons] at hgraphs
  rw [← List.append_assoc]
  exact hgraphs.append_right _

/-- An allocation has its block, and everybody else has theirs. -/
theorem perm_out_loose {i : Nat} {a : Allocation} (h : w.loose[i]? = some a) :
    w.out.Perm (a.blocks ++
      (w.graphs.flatMap (·.table.owned) ++ (w.loose.eraseIdx i).flatMap Allocation.blocks)) := by
  obtain ⟨hi, rfl⟩ := List.getElem?_eq_some_iff.mp h
  have hloose := (List.getElem_cons_eraseIdx_perm hi).symm.flatMap_right Allocation.blocks
  rw [List.flatMap_cons] at hloose
  exact (hloose.append_left _).trans (List.perm_append_comm_assoc _ _ _)

/-- An allocation that is released gives its block back. -/
theorem balanced_release {d : Device} {a : Allocation} {others : List BlockId}
    (h : d.pool.Balanced limit keep (a.blocks ++ others)) :
    (d.release a).pool.Balanced limit keep others := by
  rcases a with ⟨type, len, _ | id⟩
  · exact h
  · exact h.free.1

/-- A reset is a call, which makes the pool give back what it keeps unless it fails. -/
theorem reset_apply (d : Device) :
    Device.reset d =
      if d.faults .reset (d.count .reset + 1) then Device.call .reset d
      else (.ok (), { d.counted .reset with pool := d.pool.trim }) := by
  rw [Device.reset, Step.bind_apply, Device.call_apply]
  by_cases h : d.faults .reset (d.count .reset + 1)
  · rw [if_pos h, if_pos h]
  · rw [if_neg h, if_neg h]
    rfl

theorem Orderly.start (limit : Option Nat) (keep : Nat) (faults : Call → Nat → Bool)
    (hosts : HostMemory) : (start limit keep faults hosts).Orderly limit keep faults :=
  ⟨nofun, .empty limit keep, rfl⟩

/-- Whatever is done, the books balance. -/
theorem Orderly.apply (hw : w.Orderly limit keep faults) (o : Order) :
    (o.apply w).Orderly limit keep faults := by
  cases o with
  | host a => exact ⟨hw.tidy, hw.books, hw.faults⟩
  | switch c => exact ⟨hw.tidy, hw.books, hw.faults⟩
  | create name =>
    refine ⟨?_, ?_, hw.faults⟩
    · intro g hg
      rcases List.mem_append.mp hg with hg | hg
      · exact hw.tidy g hg
      · obtain rfl := List.mem_singleton.mp hg
        exact .empty name
    · have hout : (Order.apply (.create name) w).out = w.out := by
        simp [Order.apply, out, Graph.empty, SlotTable.owned, SlotTable.empty]
      rw [hout]
      exact hw.books
  | call i c =>
    rw [Order.apply]
    rcases hg : w.graphs[i]? with _ | g
    · exact hw
    · obtain ⟨htidy, hbooks, hfaults⟩ := Command.balances_run (s := ⟨w.machine, g⟩)
        (hw.tidy g (List.mem_of_getElem? hg)) c
      refine ⟨?_, ?_, hfaults.trans hw.faults⟩
      · intro g' hg'
        rcases List.mem_or_eq_of_mem_set hg' with hg' | rfl
        · exact hw.tidy g' hg'
        · exact htidy
      · have hi := (List.getElem?_eq_some_iff.mp hg).1
        refine (hbooks limit keep _ (hw.books.perm (perm_out hg))).perm ?_
        have hset := (List.set_perm_cons_eraseIdx hi
          (c.run ⟨w.machine, g⟩).2.graph).symm.flatMap_right (·.table.owned)
        rw [List.flatMap_cons] at hset
        rw [← List.append_assoc]
        exact hset.append_right _
  | discard i =>
    rw [Order.apply]
    rcases hg : w.graphs[i]? with _ | g
    · exact hw
    · have hrelease := Workspace.balances_foldl_release (List.range g.table.slots.size)
        ⟨w.machine, g.table⟩
      refine ⟨fun g' hg' => hw.tidy g' (List.mem_of_mem_eraseIdx hg'), ?_,
        hrelease.faults.trans hw.faults⟩
      have hbooks := hrelease.books limit keep _ (hw.books.perm (perm_out hg))
      rwa [← Workspace.releaseAll, Workspace.owned_releaseAll] at hbooks
  | allocate t len =>
    rw [Order.apply]
    rcases hp : w.device.pool.alloc (t.bytes * len) true with ⟨e | id, p⟩ <;>
      rw [Device.allocate_of_alloc hp] <;> dsimp only [Except.map] <;>
      refine ⟨hw.tidy, ?_, hw.faults⟩
    · obtain ⟨-, ⟨_, he, -⟩ | ⟨-, hrefused, -⟩⟩ := hw.books.alloc hp
      · cases he
      · exact hrefused
    · obtain ⟨-, ⟨_, he, hgranted, -⟩ | ⟨⟨_, he⟩, -⟩⟩ := hw.books.alloc hp
      · cases he
        refine hgranted.perm ?_
        simp only [out, List.flatMap_append, ← List.append_assoc]
        exact (List.perm_append_singleton id _).symm
      · cases he
  | release i =>
    rw [Order.apply]
    rcases ha : w.loose[i]? with _ | a
    · exact hw
    · refine ⟨hw.tidy, ?_, hw.faults⟩
      have hi := (List.getElem?_eq_some_iff.mp ha).1
      refine (balanced_release (hw.books.perm (perm_out_loose ha))).perm ?_
      -- the allocation is still there, but has no block any more
      exact ((List.set_perm_cons_eraseIdx hi a.released).symm.flatMap_right
        Allocation.blocks).append_left _
  | forget i =>
    rw [Order.apply]
    rcases ha : w.loose[i]? with _ | a
    · exact hw
    · exact ⟨hw.tidy, balanced_release (hw.books.perm (perm_out_loose ha)), hw.faults⟩
  | reset =>
    rw [Order.apply, reset_apply]
    split
    · have hcall := Device.call_changes (fun _ => False) w.device .reset
      exact ⟨hw.tidy, hcall.balanced hw.books, hcall.faults.trans hw.faults⟩
    · exact ⟨hw.tidy, hw.books.trim.1, hw.faults⟩

/-- Whatever was done, the books balance. -/
theorem Orderly.applyAll (hw : w.Orderly limit keep faults) (orders : List Order) :
    (applyAll orders w).Orderly limit keep faults := by
  induction orders generalizing w with
  | nil => exact hw
  | cons o r ih => exact ih (hw.apply o)

/-! ### Owners -/

/-- The blocks are those that somebody has. -/
theorem mem_holdings (w : Station) (id : BlockId) : id ∈ w.holdings ↔ ∃ o, w.Owns o id := by
  simp only [holdings, out, List.mem_append, List.mem_flatMap]
  constructor
  · rintro ((⟨g, hg, hid⟩ | ⟨a, ha, hid⟩) | hid)
    · obtain ⟨i, hi⟩ := List.mem_iff_getElem?.mp hg
      obtain ⟨s, hs⟩ := SlotTable.mem_owned.mp hid
      exact ⟨.slot i s, g, hi, hs⟩
    · obtain ⟨i, hi⟩ := List.mem_iff_getElem?.mp ha
      exact ⟨.loose i, a, hi, by simpa [Allocation.blocks] using hid⟩
    · exact ⟨.pool, hid⟩
  · rintro ⟨i | i | _, h⟩
    · obtain ⟨g, hg, hid⟩ := h
      exact .inl (.inl ⟨g, List.mem_of_getElem? hg, SlotTable.mem_owned.mpr ⟨_, hid⟩⟩)
    · obtain ⟨a, ha, hid⟩ := h
      exact .inl (.inr ⟨a, List.mem_of_getElem? ha, by simpa [Allocation.blocks] using hid⟩)
    · exact .inr h

/-- What stands for two members of a list at different places has no duplicates in common. -/
theorem index_eq_of_nodup {α β : Type} {l : List α} {f : α → List β} (h : (l.flatMap f).Nodup)
    {i j : Nat} {a b : α} {x : β} (hi : l[i]? = some a) (hj : l[j]? = some b) (ha : x ∈ f a)
    (hb : x ∈ f b) : i = j := by
  obtain ⟨hlt, rfl⟩ := List.getElem?_eq_some_iff.mp hi
  refine Classical.byContradiction ?_
  intro hne
  have hperm := (List.getElem_cons_eraseIdx_perm hlt).symm.flatMap_right f
  rw [List.flatMap_cons] at hperm
  have hdisjoint := (List.nodup_append.mp (hperm.nodup_iff.mp h)).2.2
  refine hdisjoint x ha x (List.mem_flatMap.mpr ⟨b, ?_, hb⟩) rfl
  exact List.mem_eraseIdx_iff_getElem?.mpr ⟨j, Ne.symm hne, hj⟩

/-- Where no block stands twice among the blocks of slots, no two slots have the same. -/
theorem slot_eq_of_nodup {t : SlotTable} (h : t.owned.Nodup) {s s' : SlotId} {id : BlockId}
    (hs : t.block? s = some id) (hs' : t.block? s' = some id) : s = s' := by
  have hget := SlotTable.getElem?_of_has (Workspace.has_of_block? hs)
  have hget' := SlotTable.getElem?_of_has (Workspace.has_of_block? hs')
  have hindex := index_eq_of_nodup h hget hget' (Option.mem_toList.mpr hs)
    (Option.mem_toList.mpr hs')
  cases s
  cases s'
  exact congrArg SlotId.mk hindex

/-- Where no block stands twice in the books, nobody has a block of somebody else. -/
theorem owner_unique (h : w.holdings.Nodup) {o o' : Owner} {id : BlockId} (ho : w.Owns o id)
    (ho' : w.Owns o' id) : o = o' := by
  obtain ⟨hout, -, hkept⟩ := List.nodup_append.mp h
  obtain ⟨hgraphs, hloose, hapart⟩ := List.nodup_append.mp hout
  have hslot : ∀ {i s}, w.Owns (.slot i s) id → id ∈ w.graphs.flatMap (·.table.owned) := by
    rintro i s ⟨g, hg, hid⟩
    exact List.mem_flatMap.mpr ⟨g, List.mem_of_getElem? hg, SlotTable.mem_owned.mpr ⟨s, hid⟩⟩
  have hfree : ∀ {i}, w.Owns (.loose i) id → id ∈ w.loose.flatMap Allocation.blocks := by
    rintro i ⟨a, ha, hid⟩
    exact List.mem_flatMap.mpr ⟨a, List.mem_of_getElem? ha, Option.mem_toList.mpr hid⟩
  rcases o with ⟨i, s⟩ | i | _ <;> rcases o' with ⟨i', s'⟩ | i' | _
  · obtain ⟨g, hg, hid⟩ := ho
    obtain ⟨g', hg', hid'⟩ := ho'
    obtain rfl := index_eq_of_nodup hgraphs hg hg' (SlotTable.mem_owned.mpr ⟨s, hid⟩)
      (SlotTable.mem_owned.mpr ⟨s', hid'⟩)
    obtain rfl : g = g' := Option.some.inj (hg.symm.trans hg')
    have hnodup := (List.nodup_flatMap.mp hgraphs).1 g (List.mem_of_getElem? hg)
    rw [slot_eq_of_nodup hnodup hid hid']
  · exact absurd rfl (hapart id (hslot ho) id (hfree ho'))
  · exact absurd rfl (hkept id (List.mem_append_left _ (hslot ho)) id ho')
  · exact absurd rfl (hapart id (hslot ho') id (hfree ho))
  · obtain ⟨a, ha, hid⟩ := ho
    obtain ⟨a', ha', hid'⟩ := ho'
    rw [index_eq_of_nodup hloose ha ha' (Option.mem_toList.mpr hid) (Option.mem_toList.mpr hid')]
  · exact absurd rfl (hkept id (List.mem_append_right _ (hfree ho)) id ho')
  · exact absurd rfl (hkept id (List.mem_append_left _ (hslot ho')) id ho)
  · exact absurd rfl (hkept id (List.mem_append_right _ (hfree ho')) id ho)
  · rfl

/-- When all graphs were disposed of and all allocations released, a reset leaves no memory in
use. -/
theorem Orderly.reset_empties (hw : w.Orderly limit keep faults)
    (hgraphs : ∀ g ∈ w.graphs, g.phase = .disposed) (hloose : ∀ a ∈ w.loose, a.block = none)
    (hreset : ∀ n, faults .reset n = false) :
    ∃ d, Device.reset w.device = (.ok (), d) ∧ d.memoryUsed = 0 ∧ d.cachedBlocks = 0 := by
  have hout : w.out = [] := by
    refine List.append_eq_nil_iff.mpr ⟨List.flatMap_eq_nil_iff.mpr ?_,
      List.flatMap_eq_nil_iff.mpr ?_⟩
    · exact fun g hg => (hw.tidy g hg).disposed (hgraphs g hg)
    · intro a ha
      rw [Allocation.blocks, hloose a ha, Option.toList_none]
  have hbooks := hw.books.trim.1
  rw [hout] at hbooks
  rw [reset_apply, hw.faults, hreset, if_neg Bool.false_ne_true]
  exact ⟨_, rfl, hbooks.holds.used, rfl⟩

/-- Whatever was done on a device since it was made: every block that is there has one owner, and
the pool keeps a block once; the memory in use is that of the blocks that are owned, and stays
within the limit; not too many blocks of one size are kept. When all graphs were disposed of or
thrown away and all allocations released or thrown away, a reset leaves no memory in use. -/
theorem memory_is_owned (limit : Option Nat) (keep : Nat) (faults : Call → Nat → Bool)
    (hosts : HostMemory) (orders : List Order) :
    let w := applyAll orders (start limit keep faults hosts)
    (∀ id, (w.device.pool.arena.get? id).isSome ↔ ∃ o, w.Owns o id) ∧
      (∀ o o' id, w.Owns o id → w.Owns o' id → o = o') ∧
      (∀ id, id ∈ w.holdings ↔ ∃ o, w.Owns o id) ∧ w.holdings.Nodup ∧
      w.device.memoryUsed = w.device.pool.arena.total w.holdings ∧
      (∀ c, limit = some c → w.device.memoryUsed ≤ c) ∧
      (∀ size, w.device.pool.countOf size ≤ keep) ∧
      ((∀ g ∈ w.graphs, g.phase = .disposed) → (∀ a ∈ w.loose, a.block = none) →
        (∀ n, faults .reset n = false) →
        ∃ d, Device.reset w.device = (.ok (), d) ∧ d.memoryUsed = 0 ∧ d.cachedBlocks = 0) := by
  intro w
  have hw : w.Orderly limit keep faults := (Orderly.start limit keep faults hosts).applyAll orders
  have hholds := hw.books.holds
  refine ⟨fun id => ?_, fun o o' id => owner_unique hholds.nodup, w.mem_holdings, hholds.nodup,
    hholds.used, fun c hc => hholds.within c (hw.books.capacity.trans hc), hw.books.few,
    hw.reset_empties⟩
  rw [← mem_holdings, holdings, hholds.mem, Arena.size?, Option.isSome_map]

/-- A graph runs and is disposed of, and an allocation is released. The pool keeps both blocks,
until the device is reset. -/
theorem memory_is_owned_reset :
    let w := applyAll [.create "g", .call 0 (.streamIn [⟨0⟩]), .call 0 .execute,
        .allocate (.scalar .uint8) 5, .release 0, .call 0 .dispose]
      (start (some 8) 1 (fun _ _ => false) ⟨#[.filled (.scalar .uint8) 2 (7 : UInt8)]⟩)
    w.device.memoryUsed = 7 ∧
      ∃ d, Device.reset w.device = (.ok (), d) ∧ d.memoryUsed = 0 ∧ d.cachedBlocks = 0 := by
  intro w
  obtain ⟨-, -, -, -, -, -, -, hreset⟩ := memory_is_owned (some 8) 1 (fun _ _ => false)
    ⟨#[.filled (.scalar .uint8) 2 (7 : UInt8)]⟩ [.create "g", .call 0 (.streamIn [⟨0⟩]),
      .call 0 .execute, .allocate (.scalar .uint8) 5, .release 0, .call 0 .dispose]
  exact ⟨by decide, hreset (by decide) (by decide) fun _ => rfl⟩

end Station

end Offload
