import Mathlib.Algebra.GroupWithZero.Nat
import Mathlib.Data.List.Perm.Basic
import Offload.Proofs.Loan

/-!
# The books of a pool

Every block that an arena has handed out and not taken back is in somebody's hands: in those of
whoever asked for it, or in those of the pool, which keeps it for later. A list of all these
blocks accounts for the memory in use.

* `Arena.Holds` — the blocks of a list are just those that are there, each of them stands in the
  list once, and their sizes add up to the number of bytes in use.
* `Pool.Balanced` — the blocks that are out and those that are kept account for the arena
  together, and the pool sticks to its rules.
* `Pool.Balanced.alloc`, `Pool.Balanced.free`, `Pool.Balanced.trim` — what a request does to the
  books. One that is refused would have exceeded the limit even with nothing kept.
-/

namespace Offload

/-- Another member in a list, seen through what members stand for. -/
theorem perm_flatMap_set {α β : Type} {l : List α} {i : Nat} {a : α} (f : α → List β) (x : α)
    (h : l[i]? = some a) : (f a ++ (l.set i x).flatMap f).Perm (f x ++ l.flatMap f) := by
  obtain ⟨hi, rfl⟩ := List.getElem?_eq_some_iff.mp h
  have hset := (List.set_perm_cons_eraseIdx hi x).flatMap_right f
  have hget := (List.getElem_cons_eraseIdx_perm hi).symm.flatMap_right f
  rw [List.flatMap_cons] at hset hget
  exact (hset.append_left _).trans
    ((List.perm_append_comm_assoc _ _ _).trans (hget.symm.append_left _))

namespace Arena

variable {m m' : Arena} {ids ids' : List BlockId} {id : BlockId} {b : Block} {size : Nat}

/-! ### Sizes -/

/-- The size of a block, if it is there. -/
def size? (m : Arena) (id : BlockId) : Option Nat := (m.get? id).map Block.size

/-- The sizes of a list of blocks together. What is not there counts for nothing. -/
def total (m : Arena) (ids : List BlockId) : Nat := (ids.filterMap m.size?).sum

theorem size?_of_get? (h : m.get? id = some b) : m.size? id = some b.size := by
  rw [size?, h, Option.map_some]

/-- One more block is there after it was handed out. -/
theorem size?_alloc (h : m.alloc size = (.ok id, m')) (id' : BlockId) :
    m'.size? id' = if id' = id then some size else m.size? id' := by
  unfold alloc at h
  split at h
  · simp only [Prod.mk.injEq, Except.ok.injEq] at h
    obtain ⟨rfl, rfl⟩ := h
    have hidx : id' = ⟨m.blocks.size⟩ ↔ id'.index = m.blocks.size := by
      cases id'
      simp
    simp only [size?, get?, Array.getElem?_push, hidx]
    split <;> simp
  · simp at h

/-- One block is gone after it was taken back. -/
theorem size?_free (m : Arena) (id id' : BlockId) :
    (m.free id).size? id' = if id' = id then none else m.size? id' := by
  simp only [size?]
  split
  · rename_i h
    rw [h, get?_free_self, Option.map_none]
  · rename_i h
    rw [get?_free_ne m h]

theorem total_cons (h : m.size? id = some size) (ids : List BlockId) :
    m.total (id :: ids) = size + m.total ids := by
  simp only [total, List.filterMap_cons, h, List.sum_cons]

theorem total_append (m : Arena) (ids ids' : List BlockId) :
    m.total (ids ++ ids') = m.total ids + m.total ids' := by
  simp only [total, List.filterMap_append, List.sum_append]

/-- The order does not matter. -/
theorem total_perm (m : Arena) (h : ids.Perm ids') : m.total ids = m.total ids' :=
  (h.filterMap m.size?).sum_nat

/-- Only sizes matter. -/
theorem total_congr (h : ∀ id ∈ ids, m'.size? id = m.size? id) : m'.total ids = m.total ids :=
  congrArg List.sum (List.filterMap_congr h)

/-! ### Accounts of an arena -/

/-- The list accounts for the memory in use. -/
structure Holds (m : Arena) (ids : List BlockId) : Prop where
  /-- no block stands there twice -/
  nodup : ids.Nodup
  /-- the blocks are those that are there -/
  mem : ∀ id, id ∈ ids ↔ (m.size? id).isSome
  /-- their sizes add up to what is in use -/
  used : m.used = m.total ids
  /-- which is within the limit -/
  within : ∀ c, m.capacity = some c → m.used ≤ c

namespace Holds

theorem empty (capacity : Option Nat) : (Arena.empty capacity).Holds [] where
  nodup := List.nodup_nil
  mem id := by simp [Arena.empty, size?, get?]
  used := rfl
  within _ _ := Nat.zero_le _

theorem perm (hm : m.Holds ids) (h : ids.Perm ids') : m.Holds ids' where
  nodup := h.nodup_iff.mp hm.nodup
  mem id := by rw [← h.mem_iff, hm.mem]
  used := hm.used.trans (m.total_perm h)
  within := hm.within

/-- Contents do not matter. -/
theorem changes {W : BlockId → Prop} (hm : m.Holds ids) (h : Changes W m m') : m'.Holds ids where
  nodup := hm.nodup
  mem id := by
    rw [hm.mem, size?, size?, h.sizes]
  used := by
    rw [h.used, hm.used]
    exact (total_congr fun id _ => h.sizes id).symm
  within c hc := by
    rw [h.used]
    exact hm.within c (h.capacity ▸ hc)

theorem size?_eq_some (hm : m.Holds ids) (h : id ∈ ids) : ∃ size, m.size? id = some size :=
  Option.isSome_iff_exists.mp ((hm.mem id).mp h)

/-- A request is granted if it stays within the limit. -/
theorem alloc_of_le (hm : m.Holds ids) (h : ∀ c, m.capacity = some c → m.total ids + size ≤ c) :
    ∃ id m', m.alloc size = (.ok id, m') := by
  refine ⟨_, _, if_pos ?_⟩
  rw [fits, hm.used]
  rcases hc : m.capacity with _ | c
  · rfl
  · simpa using h c hc

/-- A request that is refused would have exceeded the limit. -/
theorem lt_of_alloc {e : DeviceError} (hm : m.Holds ids) (h : m.alloc size = (.error e, m')) :
    ∃ c, m.capacity = some c ∧ c < m.total ids + size := by
  refine Classical.byContradiction ?_
  intro hnot
  obtain ⟨id, m₁, hok⟩ : ∃ id m₁, m.alloc size = (.ok id, m₁) := hm.alloc_of_le fun c hc =>
    Nat.le_of_not_lt fun hlt => hnot ⟨c, hc, hlt⟩
  rw [hok] at h
  cases h

/-- A block that is handed out was not on the list. -/
theorem not_mem_of_alloc (hm : m.Holds ids) (h : m.alloc size = (.ok id, m')) : id ∉ ids := by
  rw [hm.mem, size?, (alloc_inv h).1]
  exact Bool.false_ne_true

/-- The blocks on the list have the same sizes after one more was handed out. -/
theorem size?_of_alloc (hm : m.Holds ids) (h : m.alloc size = (.ok id, m')) {id' : BlockId}
    (hid : id' ∈ ids) : m'.size? id' = m.size? id' := by
  rw [size?_alloc h, if_neg]
  rintro rfl
  exact hm.not_mem_of_alloc h hid

/-- A block that is handed out goes onto the list. -/
theorem alloc (hm : m.Holds ids) (h : m.alloc size = (.ok id, m')) : m'.Holds (id :: ids) := by
  have hsize := size?_alloc h
  have hself : m'.size? id = some size := by rw [hsize, if_pos rfl]
  have hold : m'.total ids = m.total ids := total_congr fun _ => hm.size?_of_alloc h
  have hused : m'.used = m.used + size ∧ ∀ c, m'.capacity = some c → m.used + size ≤ c := by
    unfold Arena.alloc at h
    split at h
    · rename_i hfits
      cases h
      refine ⟨rfl, ?_⟩
      intro c hc
      simpa [fits, show m.capacity = some c from hc] using hfits
    · cases h
  refine ⟨List.nodup_cons.mpr ⟨hm.not_mem_of_alloc h, hm.nodup⟩, ?_, ?_, ?_⟩
  · intro id'
    rw [List.mem_cons, hsize]
    split
    · simp [*]
    · simp [*, hm.mem]
  · rw [hused.1, hm.used, total_cons hself, hold, Nat.add_comm]
  · intro c hc
    rw [hused.1]
    exact hused.2 c hc

/-- The blocks that stay on the list have the same sizes after one was taken back. -/
theorem size?_of_free (hm : m.Holds (id :: ids)) {id' : BlockId} (hid : id' ∈ ids) :
    (m.free id).size? id' = m.size? id' := by
  rw [size?_free, if_neg]
  rintro rfl
  exact (List.nodup_cons.mp hm.nodup).1 hid

/-- A block that is taken back comes off the list. -/
theorem free (hm : m.Holds (id :: ids)) : (m.free id).Holds ids := by
  obtain ⟨hnew, hnodup⟩ := List.nodup_cons.mp hm.nodup
  obtain ⟨size, hsize⟩ := hm.size?_eq_some List.mem_cons_self
  have hold : (m.free id).total ids = m.total ids := total_congr fun _ => hm.size?_of_free
  have hused : (m.free id).used = m.used - size := by
    obtain ⟨b, hb, rfl⟩ := Option.map_eq_some_iff.mp hsize
    rw [Arena.free, hb]
  refine ⟨hnodup, ?_, ?_, ?_⟩
  · intro id'
    rw [size?_free]
    split
    · simp [*]
    · rename_i hne
      rw [← hm.mem, List.mem_cons, or_iff_right hne]
  · rw [hused, hm.used, total_cons hsize, hold, Nat.add_sub_cancel_left]
  · intro c hc
    rw [capacity_free] at hc
    exact Nat.le_trans (hused ▸ Nat.sub_le _ _) (hm.within c hc)

/-- Blocks that are taken back one after the other come off the list. -/
theorem foldl_free {xs : List (Nat × BlockId)} (hm : m.Holds (xs.map Prod.snd ++ ids)) :
    (xs.foldl (fun a entry => a.free entry.2) m).Holds ids := by
  induction xs generalizing m with
  | nil => exact hm
  | cons x r ih => exact ih (Holds.free hm)

end Holds

end Arena

namespace Pool

variable {limit : Option Nat} {keep : Nat} {p p' : Pool} {out out' : List BlockId} {id : BlockId}
  {size : Nat} {zero : Bool}

/-! ### Accounts of a pool -/

/-- The blocks of a list are out, and those that the pool keeps are all others that are there. -/
structure Balanced (p : Pool) (limit : Option Nat) (keep : Nat) (out : List BlockId) : Prop where
  /-- what is out and what is kept account for the memory in use -/
  holds : p.arena.Holds (out ++ p.keptIds)
  /-- what is kept is kept under its size -/
  sizes : ∀ size id, (size, id) ∈ p.cached → p.arena.size? id = some size
  /-- not too much of one size is kept -/
  few : ∀ size, p.countOf size ≤ keep
  /-- the limit is this one -/
  capacity : p.arena.capacity = limit
  /-- and so is the number of blocks that are kept for each size -/
  rule : p.keep = keep

namespace Balanced

theorem empty (limit : Option Nat) (keep : Nat) :
    (Pool.empty limit keep).Balanced limit keep [] where
  holds := .empty limit
  sizes _ _ h := absurd h List.not_mem_nil
  few _ := Nat.zero_le _
  capacity := rfl
  rule := rfl

theorem perm (hp : p.Balanced limit keep out) (h : out.Perm out') : p.Balanced limit keep out' :=
  { hp with holds := hp.holds.perm (h.append_right _) }

/-- Contents do not matter. -/
theorem changes {W : BlockId → Prop} {m : Arena} (hp : p.Balanced limit keep out)
    (h : Arena.Changes W p.arena m) : Balanced { p with arena := m } limit keep out where
  holds := hp.holds.changes h
  sizes size id hid := (h.sizes id).trans (hp.sizes size id hid)
  few := hp.few
  capacity := h.capacity.trans hp.capacity
  rule := hp.rule

/-- What is out is not kept. -/
theorem not_mem_keptIds (hp : p.Balanced limit keep out) (h : id ∈ out) : id ∉ p.keptIds :=
  fun hid => (List.nodup_append.mp hp.holds.nodup).2.2 id h id hid rfl

/-- What is out stays within the limit. -/
theorem total_le {c : Nat} (hp : p.Balanced (some c) keep out) : p.arena.total out ≤ c := by
  have hle := hp.holds.within c hp.capacity
  rw [hp.holds.used, Arena.total_append] at hle
  omega

/-- Giving back what is kept leaves what is out. -/
theorem trim (hp : p.Balanced limit keep out) :
    p.trim.Balanced limit keep out ∧ ∀ id ∈ out, p.trim.arena.size? id = p.arena.size? id := by
  refine ⟨⟨?_, nofun, fun _ => Nat.zero_le _, ?_, hp.rule⟩, ?_⟩
  · have hall := hp.holds.perm List.perm_append_comm
    exact (List.append_nil out).symm ▸ hall.foldl_free
  · exact (Arena.capacity_foldl_free _ _).trans hp.capacity
  · intro id hid
    exact congrArg (Option.map _) (Arena.get?_foldl_free _ _ (hp.not_mem_keptIds hid))

/-- A new block from the arena goes out. -/
theorem withArena_alloc {m : Arena} (hp : p.Balanced limit keep out)
    (h : p.arena.alloc size = (.ok id, m)) :
    Balanced { p with arena := m } limit keep (id :: out) ∧ m.get? id = some (.zeroed size) ∧
      ∀ id' ∈ out, m.size? id' = p.arena.size? id' := by
  have hold : ∀ id' ∈ out ++ p.keptIds, m.size? id' = p.arena.size? id' :=
    fun _ => hp.holds.size?_of_alloc h
  refine ⟨⟨hp.holds.alloc h, ?_, hp.few, ?_, hp.rule⟩, Arena.get?_alloc_self h, ?_⟩
  · intro size' id' hid'
    rw [hold id' (List.mem_append_right _ (List.mem_map.mpr ⟨_, hid', rfl⟩))]
    exact hp.sizes size' id' hid'
  · exact (Arena.alloc_inv h).2.1.trans hp.capacity
  · exact fun id' hid' => hold id' (List.mem_append_left _ hid')

/-- A block that was kept goes out again. -/
theorem reuse {entry : Nat × BlockId} (hp : p.Balanced limit keep out) (he : entry ∈ p.cached) :
    Balanced { p with cached := p.cached.erase entry } limit keep (entry.2 :: out) := by
  have hperm : (out ++ p.keptIds).Perm
      (entry.2 :: out ++ (p.cached.erase entry).map Prod.snd) :=
    (((List.perm_cons_erase he).map Prod.snd).append_left out).trans List.perm_middle
  refine ⟨hp.holds.perm hperm, ?_, ?_, hp.capacity, hp.rule⟩
  · exact fun size id hid => hp.sizes size id (List.mem_of_mem_erase hid)
  · exact fun size => Nat.le_trans (List.erase_sublist.countP_le) (hp.few size)

/-- What comes of a request. A block that is handed out goes out, with the size asked for, and
with zeros in it where they are wanted. A request that is refused would have exceeded the limit
together with what is out. -/
theorem alloc {r : Except DeviceError BlockId} (hp : p.Balanced limit keep out)
    (h : p.alloc size zero = (r, p')) :
    (∀ id ∈ out, p'.arena.size? id = p.arena.size? id) ∧
      ((∃ id, r = .ok id ∧ p'.Balanced limit keep (id :: out) ∧ p'.arena.size? id = some size ∧
          (zero = true → p'.arena.get? id = some (.zeroed size))) ∨
        (∃ e, r = .error e) ∧ p'.Balanced limit keep out ∧
          ∃ c, limit = some c ∧ c < p.arena.total out + size) := by
  unfold Pool.alloc at h
  split at h
  · rename_i entry hfind
    have he := List.mem_of_find?_eq_some hfind
    have hsize : p.arena.size? entry.2 = some size := by
      obtain rfl : entry.1 = size := by simpa using List.find?_some hfind
      exact hp.sizes _ _ he
    cases zero <;> cases h
    · exact ⟨fun _ _ => rfl, .inl ⟨_, rfl, hp.reuse he, hsize, nofun⟩⟩
    · have hclear := Arena.Changes.modify_of_size p.arena entry.2 Block.size_clear
      refine ⟨fun id _ => hclear.sizes id, .inl ⟨_, rfl, (hp.reuse he).changes hclear,
        (hclear.sizes _).trans hsize, fun _ => ?_⟩⟩
      obtain ⟨b, hb, rfl⟩ := Option.map_eq_some_iff.mp hsize
      exact (Arena.get?_modify_self _ _ _).trans (by rw [hb]; rfl)
  · unfold allocFresh at h
    rcases h₁ : p.arena.alloc size with ⟨e | id, m⟩ <;> rw [h₁] at h
    · -- everything kept goes back, and the arena is asked once more
      obtain ⟨htrim, hsame⟩ := hp.trim
      rcases h₂ : p.trim.arena.alloc size with ⟨e₂ | id, m₂⟩ <;> rw [h₂] at h <;> cases h
      · obtain ⟨c, hc, hlt⟩ := htrim.holds.lt_of_alloc h₂
        refine ⟨hsame, .inr ⟨⟨_, rfl⟩, htrim, c, htrim.capacity.symm.trans hc, ?_⟩⟩
        have hkept : out ++ p.trim.keptIds = out := List.append_nil out
        rwa [hkept, Arena.total_congr hsame] at hlt
      · obtain ⟨hb, hid, hold⟩ := htrim.withArena_alloc h₂
        exact ⟨fun id' hid' => (hold id' hid').trans (hsame id' hid'),
          .inl ⟨_, rfl, hb, Arena.size?_of_get? hid, fun _ => hid⟩⟩
    · cases h
      obtain ⟨hb, hid, hold⟩ := hp.withArena_alloc h₁
      exact ⟨hold, .inl ⟨_, rfl, hb, Arena.size?_of_get? hid, fun _ => hid⟩⟩

/-- A block that is taken back is not out any more; the pool keeps it or hands it on. -/
theorem free (hp : p.Balanced limit keep (id :: out)) :
    (p.free id).Balanced limit keep out ∧
      ∀ id' ∈ out, (p.free id).arena.size? id' = p.arena.size? id' := by
  obtain ⟨size, hsize⟩ := hp.holds.size?_eq_some List.mem_cons_self
  obtain ⟨b, hb, rfl⟩ := Option.map_eq_some_iff.mp hsize
  unfold Pool.free
  rw [hb]
  dsimp only
  split
  · rename_i hroom
    refine ⟨⟨hp.holds.perm List.perm_middle.symm, ?_, ?_, hp.capacity, hp.rule⟩, fun _ _ => rfl⟩
    · intro size' id' hid'
      rcases List.mem_cons.mp hid' with he | hid'
      · cases he
        exact hsize
      · exact hp.sizes size' id' hid'
    · intro size'
      rw [hp.rule] at hroom
      simp only [countOf, List.countP_cons, beq_iff_eq] at hroom ⊢
      split
      · rename_i he
        exact he ▸ hroom
      · exact hp.few size'
  · have hold : ∀ id' ∈ out ++ p.keptIds, (p.arena.free id).size? id' = p.arena.size? id' :=
      fun _ => hp.holds.size?_of_free
    refine ⟨⟨hp.holds.free, ?_, hp.few, ?_, hp.rule⟩, ?_⟩
    · intro size' id' hid'
      rw [hold id' (List.mem_append_right _ (List.mem_map.mpr ⟨_, hid', rfl⟩))]
      exact hp.sizes size' id' hid'
    · exact (Arena.capacity_free _ _).trans hp.capacity
    · exact fun id' hid' => hold id' (List.mem_append_left _ hid')

end Balanced

end Pool

end Offload
