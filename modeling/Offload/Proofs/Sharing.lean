import Offload.Kernel.Guards
import Offload.Proofs.Elements
import Offload.Proofs.Reach

/-!
# Sharing locks

Arguments that name the same block share a lock, and no others do. Since a launch takes the mutex of
each block once, it never waits for itself, and since an argument is seen through its lock, what is
stored through one argument is seen through those that share its lock and through no others.

* `Guards.gather_eq` — taking mutexes one by one leads to the table of locks.
* `LockTable.acquire_error_iff` — when there are no locks to be had.
* `LockTable.Shares` — a table that is right for its arguments; `LockTable.shares_acquire`.
* `Frame.view_modify_of_block?_eq`, `Frame.view_modify_of_block?_ne` — what is seen after a store.
* `LockTable.acquire_shares` — all of it together.
-/

namespace Offload

variable {m : Arena} {a : Allocation} {args : List LaunchArg}

/-! ### Released memory -/

namespace Arena

theorem blockOf?_eq_some_iff {id : BlockId} :
    m.blockOf? a = some id ↔ a.block = some id ∧ (m.get? id).isSome = true := by
  simp [blockOf?, Option.filter_eq_some_iff]

/-- Memory was released where there is no block to be had. -/
theorem blockOf?_eq_none_iff : m.blockOf? a = none ↔ m.raw a = .error .notAllocated := by
  rw [blockOf?, raw]
  rcases a.block with _ | id
  · exact ⟨fun _ => rfl, fun _ => rfl⟩
  · rcases hget : m.get? id with _ | b <;> simp [hget]

end Arena

/-! ### Taking mutexes -/

namespace LockTable

variable {t : LockTable}

theorem acquireFrom_of_some {id : BlockId} (h : m.blockOf? a = some id) (t : LockTable)
    (args : List LaunchArg) :
    acquireFrom m t (.buffer a :: args) = acquireFrom m (t.hold id) args := by
  obtain ⟨hid, hsome⟩ := Arena.blockOf?_eq_some_iff.mp h
  rw [acquireFrom, hid]
  exact if_pos hsome

theorem acquireFrom_of_none (h : m.blockOf? a = none) (t : LockTable) (args : List LaunchArg) :
    acquireFrom m t (.buffer a :: args) = .error .notAllocated := by
  rw [acquireFrom]
  split
  · rename_i id hid
    refine if_neg fun hsome => ?_
    rw [Arena.blockOf?_eq_some_iff.mpr ⟨hid, hsome⟩] at h
    cases h
  · rfl

end LockTable

namespace Placement

variable {p : Placement}

theorem addressIn_of_none (h : m.blockOf? a = none) : p.addressIn m a = 0 := by
  rw [addressIn, h]
  rfl

theorem addressIn_of_some {id : BlockId} (h : m.blockOf? a = some id) :
    p.addressIn m a = p.address id := by
  rw [addressIn, h]
  rfl

/-- Looking for an address is looking for its block. -/
theorem idxOf?_map_address (p : Placement) (ids : List BlockId) (id : BlockId) :
    (ids.map p.address).idxOf? (p.address id) = ids.idxOf? id := by
  have hsame : (fun x => x == p.address id) ∘ p.address = fun x => x == id :=
    funext fun x => Bool.eq_iff_iff.mpr
      (by simpa using ⟨p.injective x id, congrArg p.address⟩)
  rw [List.idxOf?, List.findIdx?_map, hsame]
  rfl

/-- The address of released memory is not found. -/
theorem idxOf?_map_zero (p : Placement) (ids : List BlockId) :
    (ids.map p.address).idxOf? 0 = none := by
  simp [p.ne_zero]

end Placement

namespace Guards

open Placement

variable (p : Placement) (t : LockTable)

theorem add_scalar (v : Scalar) : add p m (ofTable p t) (.scalar v) = .ok (ofTable p t.skip) := rfl

theorem add_of_none (h : m.blockOf? a = none) :
    add p m (ofTable p t) (.buffer a) = .error .notAllocated := by
  rw [add, addressIn_of_none h, ofTable, idxOf?_map_zero]
  simp only [take, h]
  rfl

/-- A block that was met before is found by its address. The mutex of any other block is free, as it
is taken only where the address of the block is noted as well. -/
theorem add_of_some {id : BlockId} (h : m.blockOf? a = some id) :
    add p m (ofTable p t) (.buffer a) = .ok (ofTable p (t.hold id)) := by
  rw [add, addressIn_of_some h, ofTable, idxOf?_map_address, LockTable.hold]
  rcases hfind : t.held.idxOf? id with _ | i
  · have hfree : id ∉ t.held := List.idxOf?_eq_none_iff.mp hfind
    simp only [take, h, if_neg hfree]
    simp [ofTable, bind, Except.bind, pure, Except.pure]
  · rfl

/-- Going on from a table of locks. -/
theorem foldlM_add (args : List LaunchArg) :
    args.foldlM (add p m) (ofTable p t) =
      ((LockTable.acquireFrom m t args).mapError fun _ => Stall.notAllocated).map (ofTable p) := by
  induction args generalizing t with
  | nil => rfl
  | cons arg r ih =>
    rw [List.foldlM_cons]
    cases arg with
    | scalar v =>
      rw [add_scalar]
      exact ih t.skip
    | buffer a =>
      rcases h : m.blockOf? a with _ | id
      · rw [add_of_none p t h, LockTable.acquireFrom_of_none h]
        rfl
      · rw [add_of_some p t h, LockTable.acquireFrom_of_some h]
        exact ih (t.hold id)

/-- Taking the mutexes one by one leads to the table of locks, or to the end where memory was
released; it never leads to a mutex that was taken. -/
theorem gather_eq (m : Arena) (args : List LaunchArg) :
    gather p m args =
      ((LockTable.acquire m args).mapError fun _ => Stall.notAllocated).map (ofTable p) :=
  foldlM_add p .empty args

end Guards

/-! ### The table -/

namespace LockTable

variable {t : LockTable} {e : DeviceError}

theorem acquireFrom_error_iff : acquireFrom m t args = .error e ↔
    e = .notAllocated ∧ ∃ a, .buffer a ∈ args ∧ m.raw a = .error .notAllocated := by
  induction args generalizing t with
  | nil =>
    refine ⟨nofun, ?_⟩
    rintro ⟨-, a, ha, -⟩
    cases ha
  | cons arg r ih =>
    cases arg with
    | scalar v =>
      rw [acquireFrom, ih]
      simp
    | buffer a =>
      rcases h : m.blockOf? a with _ | id
      · rw [acquireFrom_of_none h]
        have hraw := Arena.blockOf?_eq_none_iff.mp h
        refine ⟨fun he => ⟨(Except.error.inj he).symm, a, List.mem_cons_self, hraw⟩, ?_⟩
        rintro ⟨rfl, -⟩
        rfl
      · rw [acquireFrom_of_some h, ih]
        have hraw : m.raw a ≠ .error .notAllocated := fun hr => by
          rw [Arena.blockOf?_eq_none_iff.mpr hr] at h
          cases h
        simp [hraw]

/-- There are no locks to be had just where the memory of a buffer was released. -/
theorem acquire_error_iff : acquire m args = .error e ↔
    e = .notAllocated ∧ ∃ a, .buffer a ∈ args ∧ m.raw a = .error .notAllocated :=
  acquireFrom_error_iff

/-- Where there are locks, buffers have blocks. -/
theorem exists_block_of_acquire (h : acquire m args = .ok t) (ha : .buffer a ∈ args) :
    ∃ id, a.block = some id := by
  rcases hid : m.blockOf? a with _ | id
  · have herror := acquire_error_iff.mpr ⟨rfl, a, ha, Arena.blockOf?_eq_none_iff.mp hid⟩
    rw [h] at herror
    cases herror
  · exact ⟨id, (Arena.blockOf?_eq_some_iff.mp hid).1⟩

/-- What holds of a table and survives skipping a scalar and holding the block of a buffer holds of
the table in the end. -/
theorem acquireFrom_induction {P : LockTable → Prop} {t' : LockTable}
    (hskip : ∀ t, P t → P t.skip)
    (hhold : ∀ t a id, .buffer a ∈ args → a.block = some id → P t → P (t.hold id))
    (h : P t) (hok : acquireFrom m t args = .ok t') : P t' := by
  induction args generalizing t with
  | nil =>
    cases hok
    exact h
  | cons arg r ih =>
    have hrest {t : LockTable} := @ih t fun t a id ha => hhold t a id (List.mem_cons_of_mem _ ha)
    cases arg with
    | scalar v => exact hrest (hskip t h) hok
    | buffer a =>
      rcases hid : m.blockOf? a with _ | id
      · rw [acquireFrom_of_none hid] at hok
        cases hok
      · rw [acquireFrom_of_some hid] at hok
        have hblock := (Arena.blockOf?_eq_some_iff.mp hid).1
        exact hrest (hhold t a id List.mem_cons_self hblock h) hok

/-- One more block is held, if it is not held already. -/
theorem mem_hold {id id' : BlockId} : id' ∈ (t.hold id).held ↔ id' ∈ t.held ∨ id' = id := by
  rw [hold]
  rcases hfind : t.held.idxOf? id with _ | i
  · simp
  · obtain ⟨hlt, hi, -⟩ := List.idxOf?_eq_some_iff.mp hfind
    have hmem : id ∈ t.held := hi ▸ List.getElem_mem hlt
    exact ⟨.inl, fun h => h.elim (fun h => h) fun h => h ▸ hmem⟩

/-- A block is held once. -/
theorem nodup_hold (h : t.held.Nodup) (id : BlockId) : (t.hold id).held.Nodup := by
  rw [hold]
  rcases hfind : t.held.idxOf? id with _ | i
  · have hfree : id ∉ t.held := List.idxOf?_eq_none_iff.mp hfind
    refine List.nodup_append.mpr ⟨h, List.pairwise_singleton _ id, fun x hx y hy => ?_⟩
    obtain rfl := List.mem_singleton.mp hy
    rintro rfl
    exact hfree hx
  · exact h

theorem nodup_acquire (h : acquire m args = .ok t) : t.held.Nodup :=
  acquireFrom_induction (P := (·.held.Nodup)) (fun _ h => h) (fun _ _ id _ _ h => nodup_hold h id)
    List.nodup_nil h

/-- Whatever is held is the block of a buffer. -/
theorem exists_arg_of_acquire (h : acquire m args = .ok t) :
    ∀ id ∈ t.held, ∃ a, .buffer a ∈ args ∧ a.block = some id := by
  refine acquireFrom_induction
    (P := fun t => ∀ id ∈ t.held, ∃ a, LaunchArg.buffer a ∈ args ∧ a.block = some id)
    (fun _ ht => ht) (fun t a id ha hid ht id' hid' => ?_) (List.forall_mem_nil _) h
  rcases mem_hold.mp hid' with hheld | rfl
  · exact ht id' hheld
  · exact ⟨a, ha, hid⟩

theorem block?_eq_some_iff {i : Nat} {id : BlockId} :
    t.block? i = some id ↔ ∃ n, t.entries[i]? = some (some n) ∧ t.held[n]? = some id := by
  simp [block?, Option.bind_eq_some_iff, Option.join_eq_some_iff]

/-- Where no block is held twice, a block is found under one entry only. -/
theorem entry_eq_of_block?_eq {i j : Nat} {id : BlockId} (h : t.held.Nodup)
    (hi : t.block? i = some id) (hj : t.block? j = some id) : t.entries[i]? = t.entries[j]? := by
  obtain ⟨n, hn, hheld⟩ := block?_eq_some_iff.mp hi
  obtain ⟨n', hn', hheld'⟩ := block?_eq_some_iff.mp hj
  have hlt : n < t.held.length := (List.getElem?_eq_some_iff.mp hheld).1
  obtain rfl : n = n' := (List.getElem?_inj hlt h).mp (hheld.trans hheld'.symm)
  rw [hn, hn']

/-- A table that is right for its arguments. -/
structure Shares (t : LockTable) (args : List LaunchArg) : Prop where
  /-- there is an entry for every argument -/
  length : t.entries.length = args.length
  /-- scalars have no lock, and nothing else has none -/
  scalar : ∀ i : Nat, t.entries[i]? = some none ↔ ∃ v, args[i]? = some (.scalar v)
  /-- buffers share a lock where they share a block -/
  same : ∀ (i j : Nat) a b, args[i]? = some (.buffer a) → args[j]? = some (.buffer b) →
    (t.entries[i]? = t.entries[j]? ↔ a.block = b.block)
  /-- every lock is one that is held -/
  held : ∀ (i n : Nat), t.entries[i]? = some (some n) → n < t.held.length
  /-- no block is held twice -/
  once : t.held.Nodup
  /-- the blocks of buffers are held, and no others -/
  needed : ∀ id, id ∈ t.held ↔ ∃ a, .buffer a ∈ args ∧ a.block = some id

/-- An entry is where its lock is. -/
theorem Covers.entry_of_block {i : Nat} {arg : LaunchArg} {id : BlockId} (h : t.Covers args)
    (hi : args[i]? = some arg) (hid : arg.block = some id) :
    ∃ n, t.entries[i]? = some (some n) ∧ t.held[n]? = some id :=
  block?_eq_some_iff.mp ((h.block i arg hi).trans hid)

/-- An argument without a block has no lock. -/
theorem Covers.entry_of_none {i : Nat} {arg : LaunchArg} (h : t.Covers args)
    (hi : args[i]? = some arg) (hid : arg.block = none) : t.entries[i]? = some none := by
  have hlt : i < t.entries.length := h.length ▸ (List.getElem?_eq_some_iff.mp hi).1
  have hentry := List.getElem?_eq_getElem hlt
  rcases he : t.entries[i] with _ | n
  · rw [hentry, he]
  · -- the block that the entry leads to would be that of the argument
    have hn : n < t.held.length := h.held n (he ▸ List.getElem_mem _)
    have hblock := h.block i arg hi
    rw [block?_eq_some_iff.mpr ⟨n, hentry.trans (congrArg some he), List.getElem?_eq_getElem hn⟩,
      hid] at hblock
    cases hblock

theorem Covers.same {i j : Nat} {a b : Allocation} {id : BlockId} (h : t.Covers args)
    (honce : t.held.Nodup) (hi : args[i]? = some (.buffer a)) (hj : args[j]? = some (.buffer b))
    (ha : a.block = some id) : t.entries[i]? = t.entries[j]? ↔ a.block = b.block := by
  have hbi := h.block i _ hi
  have hbj := h.block j _ hj
  refine ⟨fun he => ?_, fun hab => ?_⟩
  · rw [block?, he] at hbi
    exact hbi.symm.trans hbj
  · exact entry_eq_of_block?_eq honce (hbi.trans ha) (hbj.trans (hab.symm.trans ha))

/-- The locks for a list of arguments are right for it. -/
theorem shares_acquire (h : acquire m args = .ok t) : t.Shares args := by
  have hcovers := covers_acquire h
  have honce := nodup_acquire h
  have hmem {i : Nat} {a : Allocation} (hi : args[i]? = some (.buffer a)) :
      ∃ id, a.block = some id := exists_block_of_acquire h (List.mem_of_getElem? hi)
  refine ⟨hcovers.length, fun i => ⟨fun hi => ?_, fun ⟨v, hv⟩ => hcovers.entry_of_none hv rfl⟩,
    fun i j a b hi hj => ?_, fun i n hi => hcovers.held n (List.mem_of_getElem? hi), honce,
    fun id => ⟨exists_arg_of_acquire h id, fun ⟨a, ha, hid⟩ => ?_⟩⟩
  · obtain ⟨hlt, -⟩ := List.getElem?_eq_some_iff.mp hi
    obtain ⟨arg, harg⟩ : ∃ arg, args[i]? = some arg :=
      ⟨_, List.getElem?_eq_getElem (hcovers.length ▸ hlt)⟩
    cases arg with
    | scalar v => exact ⟨v, harg⟩
    | buffer a =>
      obtain ⟨id, hid⟩ := hmem harg
      obtain ⟨n, hn, -⟩ := hcovers.entry_of_block harg hid
      cases hi.symm.trans hn
  · obtain ⟨id, hid⟩ := hmem hi
    exact hcovers.same honce hi hj hid
  · obtain ⟨i, hi⟩ := List.mem_iff_getElem?.mp ha
    obtain ⟨n, -, hheld⟩ := hcovers.entry_of_block hi hid
    exact List.mem_of_getElem? hheld

end LockTable

/-! ### What is seen -/

/-- A patch of a block is seen in its cells. -/
theorem Arena.cells_modify_patch (m : Arena) (id : BlockId) (offset : Nat) (xs : List UInt8) :
    ((m.modify id (·.patch offset xs)).get? id).elim #[] Block.cells =
      Bytes.overwrite ((m.get? id).elim #[] Block.cells) offset xs := by
  rw [get?_modify_self]
  rcases m.get? id with _ | b
  · have hsize := Bytes.size_overwrite #[] offset xs
    exact (Array.eq_empty_of_size_eq_zero hsize).symm
  · rfl

namespace Frame

variable {f : Frame} {i j offset : Nat} {t u : ElementType} {write : Bool} {id : BlockId}

/-- What is stored in the block of an argument is seen through the argument. -/
theorem view_modify_of_block?_eq (h : f.locks.block? j = some id) (xs : List UInt8) :
    f.view (m.modify id (·.patch offset xs)) j u write = (f.view m j u write).map fun (id', v) =>
      (id', { v with cells := v.cells.overwrite offset xs }) := by
  rw [view, view]
  rcases hb : f.buffer j u write with e | ⟨id', len⟩
  · rfl
  · obtain rfl : id' = id := Option.some.inj ((buffer_inv hb).1.symm.trans h)
    dsimp only
    rw [Arena.cells_modify_patch, Bytes.size_overwrite]
    split <;> rfl

/-- What is stored in another block is not. -/
theorem view_modify_of_block?_ne (h : f.locks.block? j ≠ some id) (xs : List UInt8) :
    f.view (m.modify id (·.patch offset xs)) j u write = f.view m j u write := by
  rw [view, view]
  rcases hb : f.buffer j u write with e | ⟨id', len⟩
  · rfl
  · have hne : id' ≠ id := fun he => h (he ▸ (buffer_inv hb).1)
    dsimp only
    rw [Arena.get?_modify_ne m _ hne]

/-- What is seen are the cells of the block, which has room for all elements. -/
theorem cells_of_view {v : View t} (h : f.view m i t write = .ok (id, v)) :
    v.cells = (m.get? id).elim #[] Block.cells ∧ v.len * t.bytes ≤ v.cells.size := by
  rw [view] at h
  rcases hb : f.buffer i t write with e | ⟨id', len⟩ <;> rw [hb] at h
  · cases h
  · dsimp only at h
    split at h <;> cases h
    rename_i hroom
    exact ⟨rfl, hroom⟩

end Frame

/-- A body that stores an element gets a view of the argument, and changes its block. -/
theorem Body.store_inv {f : Frame} {i place : Nat} {t : ElementType} {v : t.Value}
    {s s' : Execution}
    (h : (Body.store i t place v (.orFail fun _ => .done)).run f s = (.ok (), s')) :
    ∃ id w, f.view s.arena i t true = .ok (id, w) ∧ place < w.len ∧
      s' = { s with arena := s.arena.modify id (·.patch (place * t.bytes) (t.toBytes v)) } := by
  rw [run] at h
  dsimp only at h
  split at h
  · rename_i id w hview
    split at h
    · rename_i hplace
      exact ⟨id, w, hview, hplace, (Prod.mk.inj h).2.symm⟩
    · cases h
  · cases h
  · cases h

namespace Frame

/-- What is stored through an argument is seen through those that share its lock, at whatever type,
and through no others. -/
def Coherent (f : Frame) : Prop :=
  ∀ (i place : Nat) (t : ElementType) (v : t.Value) (s s' : Execution),
    (Body.store i t place v (.orFail fun _ => .done)).run f s = (.ok (), s') →
      ∀ (j : Nat) (write : Bool),
      (f.locks.entries[j]? = f.locks.entries[i]? →
        (∀ u, f.view s'.arena j u write = (f.view s.arena j u write).map fun (id, w) =>
          (id, { w with cells := w.cells.overwrite (place * t.bytes) (t.toBytes v) })) ∧
        ∀ id w, f.view s'.arena j t write = .ok (id, w) → w.nth place = v) ∧
      (f.locks.entries[j]? ≠ f.locks.entries[i]? →
        ∀ u, f.view s'.arena j u write = f.view s.arena j u write)

variable {f : Frame}

theorem coherent (h : f.locks.held.Nodup) : f.Coherent := by
  intro i place t v s s' hstore j write
  obtain ⟨id, w, hview, hplace, rfl⟩ := Body.store_inv hstore
  have hi : f.locks.block? i = some id := (buffer_inv (view_inv hview)).1
  refine ⟨fun he => ?_, fun hne u => ?_⟩
  · have hj : f.locks.block? j = some id := by
      rw [LockTable.block?, he]
      exact hi
    refine ⟨fun u => view_modify_of_block?_eq hj _, fun id' w' hview' => ?_⟩
    have hid : id' = id :=
      Option.some.inj ((buffer_inv (view_inv hview')).1.symm.trans hj)
    obtain ⟨hcells, hroom⟩ := cells_of_view hview
    have hcells' := (cells_of_view hview').1
    dsimp only at hcells'
    rw [hid, Arena.cells_modify_patch, ← hcells] at hcells'
    rw [View.nth, hcells']
    refine ElementType.valueAt_overwrite_self v ?_
    rw [← Nat.succ_mul]
    exact Nat.le_trans (Nat.mul_le_mul_right _ hplace) hroom
  · exact view_modify_of_block?_ne
      (fun hj => hne (LockTable.entry_eq_of_block?_eq h hj hi)) _

end Frame

namespace LockTable

/-- **Arguments share a lock where they share memory, and only there.** There are locks to be had
unless the memory of a buffer was released, and nothing else is wrong then. A launch that takes the
mutexes one after the other comes to the same table, wherever blocks are, and never to a mutex that
it took before. In the table scalars have no lock and nothing else has none, buffers share a lock
where they share a block, every lock is one that is held, and no block is held twice. So what is
stored through an argument is seen through those that share its lock, and through no others. -/
theorem acquire_shares (m : Arena) (args : List LaunchArg) :
    (∀ e, acquire m args = .error e ↔
      e = .notAllocated ∧ ∃ a, .buffer a ∈ args ∧ m.raw a = .error .notAllocated) ∧
    (∀ p, Guards.gather p m args =
        ((acquire m args).mapError fun _ => .notAllocated).map (Guards.ofTable p) ∧
      ∀ id, Guards.gather p m args ≠ .error (.deadlock id)) ∧
    ∀ t, acquire m args = .ok t → t.Shares args ∧
      ∀ name params, Frame.Coherent ⟨name, params, args, t⟩ := by
  refine ⟨fun e => acquire_error_iff, fun p => ⟨Guards.gather_eq p m args, fun id => ?_⟩,
    fun t ht => ?_⟩
  · rw [Guards.gather_eq]
    rcases acquire m args with e | t <;> nofun
  · exact ⟨shares_acquire ht, fun name params => Frame.coherent (nodup_acquire ht)⟩

/-- A block is passed twice, with a scalar and another block between. What is stored through the
last argument is seen through the first one and not through the third. If memory that was released
is passed as well, there are no locks. -/
theorem acquire_shares_twice :
    let byte : ElementType := .scalar .uint8
    let m := (((Arena.empty none).alloc 2).2.alloc 1).2
    let a : Allocation := ⟨byte, 2, some ⟨0⟩⟩
    let args : List LaunchArg :=
      [.buffer a, .scalar ⟨.int32, 5⟩, .buffer ⟨byte, 1, some ⟨1⟩⟩, .buffer a]
    let t : LockTable := ⟨[some 0, none, some 1, some 0], [⟨0⟩, ⟨1⟩]⟩
    let f : Frame := ⟨"k", [.buffer byte .read, .scalar .int32, .buffer byte .read,
      .buffer byte .write], args, t⟩
    let s' := ((Body.store 3 byte 1 (7 : UInt8) (.orFail fun _ => .done)).run f ⟨m, #[]⟩).2
    acquire m args = .ok t ∧
      Guards.gather .consecutive m args =
        .ok ⟨[some 0, none, some 1, some 0], [⟨0⟩, ⟨1⟩], [1, 2]⟩ ∧
      t.Shares args ∧ (∃ id w, f.view s'.arena 0 byte false = .ok (id, w) ∧ w.nth 1 = (7 : UInt8)) ∧
      f.view s'.arena 2 byte false = f.view m 2 byte false ∧
      acquire m (args ++ [.buffer a.released]) = .error .notAllocated := by
  intro byte m a args t f s'
  obtain ⟨-, hgather, hshares⟩ := acquire_shares m args
  have ht : acquire m args = .ok t := rfl
  obtain ⟨hright, hcoherent⟩ := hshares t ht
  have hrun : (Body.store 3 byte 1 (7 : UInt8) (.orFail fun _ => .done)).run f ⟨m, #[]⟩ =
      (.ok (), ⟨m.modify ⟨0⟩ (·.patch 1 [7]), #[]⟩) := by
    rw [Body.run]
    rfl
  have hs : s' = ⟨m.modify ⟨0⟩ (·.patch 1 [7]), #[]⟩ := congrArg Prod.snd hrun
  have hstore := hcoherent "k" f.params 3 1 byte (7 : UInt8) ⟨m, #[]⟩ _ hrun
  refine ⟨ht, (hgather .consecutive).1, hright, ?_, ?_, ?_⟩
  · rw [hs]
    exact ⟨⟨0⟩, _, rfl, ((hstore 0 false).1 rfl).2 _ _ rfl⟩
  · rw [hs]
    exact (hstore 2 false).2 (by decide) byte
  · exact ((acquire_shares m (args ++ [.buffer a.released])).1 .notAllocated).mpr
      ⟨rfl, a.released, List.mem_append_right _ List.mem_cons_self, rfl⟩

end LockTable

end Offload
