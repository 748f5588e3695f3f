import Offload.Device.Basic

/-!
# Blocks on loan

A pool lends a block from the moment it hands it out to the moment it takes it back. A block
that the pool keeps for later, or that went back to the arena, is not on loan.

* `Pool.Sound` — what is kept is there, with its size, and is kept once.
* `Pool.alloc_inv` — a block that is handed out was not on loan before, has the size asked for,
  and holds zeros; all others stay on loan, as they do when the request is refused.
* `Pool.free_inv` — taking one block back leaves all others on loan.
* `Pool.Lends.withArena_of_not` — a block that is not written holds what it held.
-/

namespace Offload

namespace Arena

/-- `m'` differs from `m` at most in the contents of the blocks for which `W` holds. -/
structure Changes (W : BlockId → Prop) (m m' : Arena) : Prop where
  /-- the limit is the same -/
  capacity : m'.capacity = m.capacity
  /-- as many bytes are in use -/
  used : m'.used = m.used
  /-- the same blocks are there, of the same sizes -/
  sizes : ∀ id, (m'.get? id).map Block.size = (m.get? id).map Block.size
  /-- all other blocks are the same -/
  same : ∀ id, ¬ W id → m'.get? id = m.get? id

namespace Changes

variable {W W' : BlockId → Prop} {m m' m'' : Arena}

theorem refl (W : BlockId → Prop) (m : Arena) : Changes W m m :=
  ⟨rfl, rfl, fun _ => rfl, fun _ _ => rfl⟩

theorem trans (h : Changes W m m') (h' : Changes W m' m'') : Changes W m m'' where
  capacity := h'.capacity.trans h.capacity
  used := h'.used.trans h.used
  sizes id := (h'.sizes id).trans (h.sizes id)
  same id hid := (h'.same id hid).trans (h.same id hid)

theorem mono (h : Changes W m m') (hW : ∀ id, W id → W' id) : Changes W' m m' :=
  ⟨h.capacity, h.used, h.sizes, fun id hid => h.same id (mt (hW id) hid)⟩

/-- A block is there afterwards if it was there before, and has the same size. -/
theorem get?_some (h : Changes W m m') {id : BlockId} {b : Block} (hb : m.get? id = some b) :
    ∃ b', m'.get? id = some b' ∧ b'.size = b.size := by
  have hs := h.sizes id
  rw [hb] at hs
  rcases hb' : m'.get? id with _ | b'
  · rw [hb'] at hs
    cases hs
  · rw [hb'] at hs
    exact ⟨b', rfl, Option.some.inj hs⟩

/-- Changing one block without changing its size is a change of that block. -/
theorem modify_of_size (m : Arena) (id : BlockId) {f : Block → Block}
    (hf : ∀ b, (f b).size = b.size) : Changes (· = id) m (m.modify id f) where
  capacity := rfl
  used := rfl
  sizes id' := by
    by_cases h : id' = id
    · subst h
      rw [get?_modify_self, Option.map_map]
      exact congrArg (Option.map · _) (funext hf)
    · rw [get?_modify_ne m _ h]
  same id' h := get?_modify_ne m _ h

/-- Patching one block is a change of that block. -/
theorem modify (m : Arena) (id : BlockId) (offset : Nat) (xs : List UInt8) :
    Changes (· = id) m (m.modify id (·.patch offset xs)) :=
  modify_of_size m id fun _ => rfl

end Changes

/-- A number that was not given out finds nothing. -/
theorem get?_of_size_le (m : Arena) {id : BlockId} (h : m.blocks.size ≤ id.index) :
    m.get? id = none := by
  rw [get?, Array.getElem?_eq_none h]
  rfl

/-- A block that is handed out is new, and the blocks that are there stay as they are. -/
theorem alloc_inv {m m' : Arena} {size : Nat} {id : BlockId}
    (h : m.alloc size = (.ok id, m')) :
    m.get? id = none ∧ m'.capacity = m.capacity ∧
      ∀ id' b, m.get? id' = some b → m'.get? id' = some b := by
  unfold alloc at h
  split at h
  · simp only [Prod.mk.injEq, Except.ok.injEq] at h
    obtain ⟨rfl, rfl⟩ := h
    refine ⟨get?_of_size_le m (Nat.le_refl _), rfl, fun id' b hb => ?_⟩
    have hlt : id'.index < m.blocks.size := by
      rcases Nat.lt_or_ge id'.index m.blocks.size with hlt | hge
      · exact hlt
      · rw [get?_of_size_le m hge] at hb
        cases hb
    rw [← hb]
    simp only [get?]
    rw [Array.getElem?_push_lt hlt, Array.getElem?_eq_getElem hlt]
  · simp at h

/-- A refused request is answered with its size. -/
theorem alloc_error_inv {m m' : Arena} {size : Nat} {e : DeviceError}
    (h : m.alloc size = (.error e, m')) : e = .outOfMemory size m.available ∧ m' = m := by
  unfold alloc at h
  split at h
  · simp at h
  · simp only [Prod.mk.injEq, Except.error.injEq] at h
    exact ⟨h.1.symm, h.2.symm⟩

/-- Without a limit no request is refused. -/
theorem alloc_unlimited {m : Arena} (h : m.capacity = none) (size : Nat) :
    ∃ id m', m.alloc size = (.ok id, m') := by
  refine ⟨_, _, if_pos ?_⟩
  rw [fits, h]
  rfl

@[simp] theorem capacity_free (m : Arena) (id : BlockId) :
    (m.free id).capacity = m.capacity := by
  unfold free
  split <;> rfl

/-- Taking blocks back leaves the limit alone. -/
theorem capacity_foldl_free (xs : List (Nat × BlockId)) (m : Arena) :
    (xs.foldl (fun a entry => a.free entry.2) m).capacity = m.capacity := by
  induction xs generalizing m with
  | nil => rfl
  | cons x xs ih => rw [List.foldl_cons, ih, capacity_free]

/-- Taking blocks back leaves all others as they are. -/
theorem get?_foldl_free (xs : List (Nat × BlockId)) (m : Arena) {id : BlockId}
    (h : id ∉ xs.map Prod.snd) :
    (xs.foldl (fun a entry => a.free entry.2) m).get? id = m.get? id := by
  induction xs generalizing m with
  | nil => rfl
  | cons x xs ih =>
    rw [List.map_cons, List.mem_cons, not_or] at h
    rw [List.foldl_cons, ih _ h.2, get?_free_ne m h.1]

end Arena

namespace Pool

variable {p p' : Pool} {id : BlockId} {b : Block} {size : Nat}

/-- The numbers of the blocks that are kept. -/
def keptIds (p : Pool) : List BlockId := p.cached.map Prod.snd

/-- The pool has handed out a block and not taken it back. -/
def Lends (p : Pool) (id : BlockId) (b : Block) : Prop :=
  p.arena.get? id = some b ∧ id ∉ p.keptIds

/-- What a pool keeps is there with its size, and is kept once. -/
structure Sound (p : Pool) : Prop where
  /-- a block that is kept is there -/
  kept : ∀ size id, (size, id) ∈ p.cached → ∃ b, p.arena.get? id = some b ∧ b.size = size
  /-- no block is kept twice -/
  nodup : p.keptIds.Nodup

/-- What was on loan is still on loan, with the same contents, and the rules are the same. -/
structure Keeps (p p' : Pool) : Prop where
  /-- the blocks on loan -/
  lends : ∀ id b, p.Lends id b → p'.Lends id b
  /-- the limit -/
  capacity : p'.arena.capacity = p.arena.capacity
  /-- the number of blocks kept for each size -/
  keep : p'.keep = p.keep

theorem Keeps.refl (p : Pool) : Keeps p p := ⟨fun _ _ h => h, rfl, rfl⟩

theorem Keeps.trans {p'' : Pool} (h : Keeps p p') (h' : Keeps p' p'') : Keeps p p'' :=
  ⟨fun id b hb => h'.lends id b (h.lends id b hb), h'.capacity.trans h.capacity,
    h'.keep.trans h.keep⟩

theorem Sound.empty (capacity : Option Nat) (keep : Nat) : (Pool.empty capacity keep).Sound :=
  ⟨fun _ _ h => absurd h List.not_mem_nil, List.nodup_nil⟩

/-! ### Giving everything back -/

theorem trim_keeps (p : Pool) : Keeps p p.trim where
  lends id b h := by
    refine ⟨?_, List.not_mem_nil⟩
    rw [← h.1]
    exact Arena.get?_foldl_free _ _ h.2
  capacity := Arena.capacity_foldl_free _ _
  keep := rfl

theorem trim_sound (p : Pool) : p.trim.Sound :=
  ⟨fun _ _ h => absurd h List.not_mem_nil, List.nodup_nil⟩

/-! ### Handing out -/

/-- A block from the arena is new to the pool. -/
theorem withArena_alloc {a : Arena} (hp : p.Sound) (h : p.arena.alloc size = (.ok id, a)) :
    Sound { p with arena := a } ∧ Keeps p { p with arena := a } ∧
      Lends { p with arena := a } id (.zeroed size) ∧ ∀ b, ¬ p.Lends id b := by
  obtain ⟨hnew, hcap, hold⟩ := Arena.alloc_inv h
  have hkept : id ∉ p.keptIds := by
    intro hmem
    obtain ⟨⟨n, id'⟩, he, rfl⟩ := List.mem_map.mp hmem
    obtain ⟨b, hb, -⟩ := hp.kept n id' he
    rw [hnew] at hb
    cases hb
  refine ⟨⟨fun n id' he => ?_, hp.nodup⟩, ⟨fun id' b hb => ⟨hold id' b hb.1, hb.2⟩, hcap, rfl⟩,
    ⟨Arena.get?_alloc_self h, hkept⟩, fun b hb => ?_⟩
  · obtain ⟨b, hb, hn⟩ := hp.kept n id' he
    exact ⟨b, hold id' b hb, hn⟩
  · cases hnew.symm.trans hb.1

/-- What comes of a request that the pool passes on to the arena. -/
theorem allocFresh_inv {r : Except DeviceError BlockId} (hp : p.Sound)
    (h : p.allocFresh size = (r, p')) :
    p'.Sound ∧ Keeps p p' ∧
      (∀ id, r = .ok id → p'.Lends id (.zeroed size) ∧ ∀ b, ¬ p.Lends id b) ∧
      ∀ e, r = .error e → e = .outOfMemory size p.arena.available := by
  unfold allocFresh at h
  rcases h₁ : p.arena.alloc size with ⟨e | id, a⟩ <;> rw [h₁] at h
  · -- refused: everything kept goes back, and the arena is asked once more
    have he := (Arena.alloc_error_inv h₁).1
    rcases h₂ : p.trim.arena.alloc size with ⟨e₂ | id, a₂⟩ <;> rw [h₂] at h
    · cases h
      exact ⟨p.trim_sound, p.trim_keeps, nofun, fun e' h' => by cases h'; exact he⟩
    · cases h
      obtain ⟨hs, hk, hl, hn⟩ := withArena_alloc p.trim_sound h₂
      refine ⟨hs, p.trim_keeps.trans hk, ?_, nofun⟩
      intro id' h'
      cases h'
      exact ⟨hl, fun b hb => hn b (p.trim_keeps.lends _ b hb)⟩
  · cases h
    obtain ⟨hs, hk, hl, hn⟩ := withArena_alloc hp h₁
    exact ⟨hs, hk, fun id' h' => by cases h'; exact ⟨hl, hn⟩, nofun⟩

/-- A block that was kept and is handed out again is cleared. -/
theorem reuse_inv {entry : Nat × BlockId} (hp : p.Sound) (he : entry ∈ p.cached)
    (hsize : entry.1 = size) :
    let q : Pool := { p with
      cached := p.cached.erase entry, arena := p.arena.modify entry.2 .clear }
    q.Sound ∧ Keeps p q ∧ q.Lends entry.2 (.zeroed size) ∧ ∀ b, ¬ p.Lends entry.2 b := by
  intro q
  have hperm : p.keptIds.Perm (entry.2 :: q.keptIds) := (List.perm_cons_erase he).map Prod.snd
  have hnodup : (entry.2 :: q.keptIds).Nodup := hperm.nodup_iff.mp hp.nodup
  have hself : entry.2 ∉ q.keptIds := (List.nodup_cons.mp hnodup).1
  have hother : ∀ id, id ∉ p.keptIds → id ≠ entry.2 ∧ id ∉ q.keptIds := by
    intro id hid
    rw [hperm.mem_iff, List.mem_cons, not_or] at hid
    exact hid
  refine ⟨⟨?_, (List.nodup_cons.mp hnodup).2⟩, ⟨?_, rfl, rfl⟩, ⟨?_, hself⟩, ?_⟩
  · intro n id hmem
    obtain ⟨b, hb, hn⟩ := hp.kept n id (List.mem_of_mem_erase hmem)
    have hne : id ≠ entry.2 := by
      rintro rfl
      exact hself (List.mem_map.mpr ⟨_, hmem, rfl⟩)
    exact ⟨b, (Arena.get?_modify_ne _ _ hne).trans hb, hn⟩
  · intro id b hb
    obtain ⟨hne, hq⟩ := hother id hb.2
    exact ⟨(Arena.get?_modify_ne _ _ hne).trans hb.1, hq⟩
  · obtain ⟨b, hb, hn⟩ := hp.kept entry.1 entry.2 he
    rw [Arena.get?_modify_self, hb, Option.map_some, Block.clear, hn, hsize]
  · intro b hb
    exact hb.2 (List.mem_map.mpr ⟨entry, he, rfl⟩)

/-- What comes of a request for a block of zeros. -/
theorem alloc_inv {r : Except DeviceError BlockId} (hp : p.Sound)
    (h : p.alloc size true = (r, p')) :
    p'.Sound ∧ Keeps p p' ∧
      (∀ id, r = .ok id → p'.Lends id (.zeroed size) ∧ ∀ b, ¬ p.Lends id b) ∧
      ∀ e, r = .error e → e = .outOfMemory size p.arena.available := by
  unfold alloc at h
  split at h
  · rename_i entry hfind
    have hsize : entry.1 = size := by simpa using List.find?_some hfind
    obtain ⟨hs, hk, hl, hn⟩ := reuse_inv hp (List.mem_of_find?_eq_some hfind) hsize
    cases h
    exact ⟨hs, hk, fun id' h' => by cases h'; exact ⟨hl, hn⟩, nofun⟩
  · exact allocFresh_inv hp h

/-- A request that was refused is refused again. -/
theorem alloc_of_refused {e : DeviceError} {zero : Bool} (h : p.alloc size zero = (.error e, p')) :
    ∃ e', p'.alloc size zero = (.error e', p') := by
  rw [alloc] at h
  split at h
  · cases h
  · rw [allocFresh] at h
    split at h
    · cases h
    · split at h <;> cases h
      -- nothing is kept any more, and the arena still has too little
      rename_i e₂ _ h₂ _
      refine ⟨e₂, ?_⟩
      rw [alloc, cached_trim, List.find?_nil]
      dsimp only
      rw [allocFresh, h₂]
      dsimp only
      rw [show p.trim.trim = p.trim from rfl, h₂]

/-- Without a limit no request is refused. -/
theorem alloc_unlimited (h : p.arena.capacity = none) (size : Nat) :
    ∃ id p', p.alloc size true = (.ok id, p') := by
  unfold alloc
  split
  · exact ⟨_, _, rfl⟩
  · obtain ⟨id, a, ha⟩ := Arena.alloc_unlimited h size
    exact ⟨id, { p with arena := a }, by rw [allocFresh, ha]⟩

/-! ### Taking back -/

/-- Taking a block back leaves all other blocks on loan. -/
theorem free_inv (hp : p.Sound) (hb : p.Lends id b) :
    (p.free id).Sound ∧ (∀ id' b', id' ≠ id → p.Lends id' b' → (p.free id).Lends id' b') ∧
      (p.free id).arena.capacity = p.arena.capacity ∧ (p.free id).keep = p.keep := by
  unfold free
  rw [hb.1]
  dsimp only
  split
  · refine ⟨⟨?_, List.nodup_cons.mpr ⟨hb.2, hp.nodup⟩⟩, ?_, rfl, rfl⟩
    · intro n id' he
      rcases List.mem_cons.mp he with he | he
      · cases he
        exact ⟨b, hb.1, rfl⟩
      · exact hp.kept n id' he
    · intro id' b' hne hb'
      exact ⟨hb'.1, fun hmem => (List.mem_cons.mp hmem).elim hne hb'.2⟩
  · refine ⟨⟨?_, hp.nodup⟩, ?_, Arena.capacity_free _ _, rfl⟩
    · intro n id' he
      obtain ⟨b', hb', hn⟩ := hp.kept n id' he
      have hne : id' ≠ id := by
        rintro rfl
        exact hb.2 (List.mem_map.mpr ⟨_, he, rfl⟩)
      exact ⟨b', (Arena.get?_free_ne _ hne).trans hb', hn⟩
    · intro id' b' hne hb'
      exact ⟨(Arena.get?_free_ne _ hne).trans hb'.1, hb'.2⟩

/-! ### Changing contents -/

/-- Changes of contents leave a pool sound. -/
theorem Sound.withArena {W : BlockId → Prop} {m : Arena} (hp : p.Sound)
    (h : Arena.Changes W p.arena m) : Sound { p with arena := m } := by
  refine ⟨?_, hp.nodup⟩
  intro n id he
  obtain ⟨b, hb, hn⟩ := hp.kept n id he
  obtain ⟨b', hb', hsize⟩ := h.get?_some hb
  exact ⟨b', hb', hsize.trans hn⟩

/-- A block that was changed is still on loan. -/
theorem Lends.modify (hb : p.Lends id b) (g : Block → Block) :
    Lends { p with arena := p.arena.modify id g } id (g b) := by
  refine ⟨?_, hb.2⟩
  rw [Arena.get?_modify_self, hb.1, Option.map_some]

/-- After a change of contents the same blocks are on loan, and have the same sizes. -/
theorem Lends.withArena {W : BlockId → Prop} {m : Arena} (hb : p.Lends id b)
    (h : Arena.Changes W p.arena m) :
    ∃ b', Lends { p with arena := m } id b' ∧ b'.size = b.size := by
  obtain ⟨b', hb', hsize⟩ := h.get?_some hb.1
  exact ⟨b', ⟨hb', hb.2⟩, hsize⟩

/-- A block that is not among those that may change stays as it is. -/
theorem Lends.withArena_of_not {W : BlockId → Prop} {m : Arena} (hb : p.Lends id b)
    (h : Arena.Changes W p.arena m) (hid : ¬ W id) : Lends { p with arena := m } id b :=
  ⟨(h.same id hid).trans hb.1, hb.2⟩

end Pool

end Offload
