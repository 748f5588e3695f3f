import Offload.Proofs.Loan
import Offload.Proofs.Sweep

/-!
# What a kernel can reach

A kernel changes memory only through arguments that it may write, and it may write an argument
only where its parameter says so.

* `LockTable.covers_acquire` — while a kernel runs, every argument leads to its own block.
* `Body.run_changes`, `Kernel.execute_changes` — nothing outside the blocks given for parameters
  that are written is changed, however the kernel ends.
* `Device.Changes` — the same for a device, whose pool and rules stay as they are as well.
-/

namespace Offload

/-- The block that a kernel is given. -/
def LaunchArg.block : LaunchArg → Option BlockId
  | .scalar _ => none
  | .buffer a => a.block

namespace LockTable

/-- Every argument leads to its own block. -/
structure Covers (t : LockTable) (args : List LaunchArg) : Prop where
  /-- there is an entry for every argument -/
  length : t.entries.length = args.length
  /-- an entry leads to a block that is held -/
  held : ∀ n, some n ∈ t.entries → n < t.held.length
  /-- it is the block of the argument -/
  block : ∀ i arg, args[i]? = some arg → t.block? i = arg.block

variable {t : LockTable} {args : List LaunchArg}

theorem Covers.empty : Covers empty [] := ⟨rfl, nofun, nofun⟩

/-- What is held so far is still found after one more entry, even where more is held. -/
theorem block?_append (hheld : ∀ n, some n ∈ t.entries → n < t.held.length) (e : Option Nat)
    (ids : List BlockId) {i : Nat} (hi : i < t.entries.length) :
    block? ⟨t.entries ++ [e], t.held ++ ids⟩ i = t.block? i := by
  simp only [block?]
  rw [List.getElem?_append_left hi, List.getElem?_eq_getElem hi]
  rcases he : t.entries[i] with _ | n
  · rfl
  · have hn : n < t.held.length := hheld n (he ▸ List.getElem_mem hi)
    simp [List.getElem?_append_left hn]

/-- One more entry, for an argument whose block is found under it. -/
theorem Covers.append (h : Covers t args) (e : Option Nat) (ids : List BlockId)
    (arg : LaunchArg) (he : ∀ n, e = some n → n < (t.held ++ ids).length)
    (hb : e.bind ((t.held ++ ids)[·]?) = arg.block) :
    Covers ⟨t.entries ++ [e], t.held ++ ids⟩ (args ++ [arg]) where
  length := by simp [h.length]
  held n hn := by
    rcases List.mem_append.mp hn with hn | hn
    · rw [List.length_append]
      exact Nat.lt_add_right _ (h.held n hn)
    · exact he n (List.mem_singleton.mp hn).symm
  block i arg' hi := by
    rcases Nat.lt_or_ge i args.length with hlt | hge
    · rw [block?_append h.held e ids (h.length ▸ hlt)]
      rw [List.getElem?_append_left hlt] at hi
      exact h.block i arg' hi
    · -- the new entry is the last one
      have hlast : i = args.length := by
        have := (List.getElem?_eq_some_iff.mp hi).1
        rw [List.length_append, List.length_singleton] at this
        omega
      subst hlast
      rw [List.getElem?_concat_length] at hi
      obtain rfl := Option.some.inj hi
      rw [← hb, ← h.length]
      simp [block?]

theorem Covers.skip (h : Covers t args) (v : Scalar) :
    Covers t.skip (args ++ [.scalar v]) := by
  have := h.append none [] (.scalar v) nofun rfl
  rwa [List.append_nil] at this

theorem Covers.hold (h : Covers t args) {a : Allocation} {id : BlockId}
    (ha : a.block = some id) : Covers (t.hold id) (args ++ [.buffer a]) := by
  unfold LockTable.hold
  split
  · rename_i i hi
    obtain ⟨hlt, heq⟩ : ∃ hlt : i < t.held.length, t.held[i] = id := by
      obtain ⟨hlt, heq, -⟩ := List.idxOf?_eq_some_iff.mp hi
      exact ⟨hlt, by simpa using heq⟩
    have := h.append (some i) [] (.buffer a)
      (fun n hn => by cases hn; simpa using hlt)
      (by simp [LaunchArg.block, ha, List.getElem?_eq_getElem hlt, heq])
    rwa [List.append_nil] at this
  · exact h.append (some t.held.length) [id] (.buffer a) (fun n hn => by cases hn; simp)
      (by simp [LaunchArg.block, ha])

theorem Covers.acquireFrom {m : Arena} {t' : LockTable} (rest : List LaunchArg)
    (h : Covers t args) (hok : acquireFrom m t rest = .ok t') : Covers t' (args ++ rest) := by
  induction rest generalizing t args with
  | nil =>
    cases hok
    rwa [List.append_nil]
  | cons arg r ih =>
    rw [List.append_cons]
    cases arg with
    | scalar v => exact ih (h.skip v) hok
    | buffer a =>
      rw [LockTable.acquireFrom] at hok
      split at hok
      · rename_i id ha
        split at hok
        · exact ih (h.hold ha) hok
        · cases hok
      · cases hok

/-- The locks for a list of arguments lead to their blocks. -/
theorem covers_acquire {m : Arena} (h : acquire m args = .ok t) : Covers t args :=
  Covers.empty.acquireFrom args h

/-- Whatever block is found under an entry, an argument has it. -/
theorem Covers.exists_arg (h : Covers t args) {i : Nat} {id : BlockId}
    (hid : t.block? i = some id) : ∃ arg, args[i]? = some arg ∧ arg.block = some id := by
  rcases harg : args[i]? with _ | arg
  · -- no argument, hence no entry
    rw [block?, List.getElem?_eq_none (h.length ▸ List.getElem?_eq_none_iff.mp harg)] at hid
    cases hid
  · exact ⟨arg, rfl, h.block i arg harg ▸ hid⟩

end LockTable

/-! ### Bodies -/

namespace Frame

variable {f : Frame} {i len : Nat} {t : ElementType} {write : Bool} {id : BlockId}

/-- The block of an argument that may be written. -/
def Writes (f : Frame) (id : BlockId) : Prop :=
  ∃ i t a, f.params[i]? = some (.buffer t a) ∧ a.writes = true ∧ f.locks.block? i = some id

/-- A buffer is found in the block of its lock. Its parameter is one for writing, if it is found
for that. -/
theorem buffer_inv (h : f.buffer i t write = .ok (id, len)) :
    f.locks.block? i = some id ∧
      ∃ a, f.params[i]? = some (.buffer t a) ∧ (write = true → a.writes = true) := by
  unfold buffer at h
  split at h
  · rename_i declared access a id' hp ha hl
    split at h
    · cases h
    · rename_i ht
      split at h
      · cases h
      · rename_i hw
        obtain rfl : id' = id := (Prod.mk.inj (Except.ok.inj h)).1
        obtain rfl : t = declared := by simpa using ht
        exact ⟨hl, access, hp, fun hwrite => by simpa [hwrite] using hw⟩
  · cases h

/-- A view is one of a buffer, and as long. -/
theorem view_inv {m : Arena} {v : View t} (h : f.view m i t write = .ok (id, v)) :
    f.buffer i t write = .ok (id, v.len) := by
  rw [view] at h
  rcases hb : f.buffer i t write with e | ⟨id', len⟩ <;> rw [hb] at h
  · cases h
  · dsimp only at h
    split at h <;> cases h
    rfl

/-- Whoever gets a view for writing may write the block. -/
theorem writes_of_view {m : Arena} {v : View t} (h : f.view m i t true = .ok (id, v)) :
    f.Writes id := by
  obtain ⟨hid, a, hp, hw⟩ := buffer_inv (view_inv h)
  exact ⟨i, t, a, hp, hw rfl, hid⟩

end Frame

/-- A body changes only what it may write. -/
theorem Body.run_changes (f : Frame) (b : Body) (s : Execution) :
    Arena.Changes f.Writes s.arena (b.run f s).2.arena := by
  induction b generalizing s with
  | done => exact .refl _ _
  | fail e => exact .refl _ _
  | crash text => exact .refl _ _
  | count next ih => exact ih _ s
  | len index next ih => exact ih _ s
  | scalar index t next ih => exact ih _ s
  | view index t next ih | writable index t next ih =>
    rw [Body.run]
    dsimp only
    split
    · exact ih _ s
    · exact ih _ s
    · exact .refl _ _
  | store index t place v next ih =>
    rw [Body.run]
    dsimp only
    split
    · rename_i id w hview
      split
      · have hpatch := Arena.Changes.modify s.arena id (place * t.bytes) (t.toBytes v)
        have hid : ∀ id', id' = id → f.Writes id' := fun _ h => h ▸ Frame.writes_of_view hview
        exact (hpatch.mono hid).trans (ih (.ok ()) { s with arena := s.arena.modify id _ })
      · exact .refl _ _
    · exact ih _ s
    · exact .refl _ _
  | report n next ih => exact ih { s with notes := s.notes.push n }

namespace Kernel

/-- The block of an argument for a parameter that is written. -/
def Writes (k : Kernel) (args : List LaunchArg) (id : BlockId) : Prop :=
  ∃ (i : Nat) (t : ElementType) (a : Access) (arg : LaunchArg),
    k.params[i]? = some (.buffer t a) ∧ a.writes = true ∧
      args[i]? = some arg ∧ arg.block = some id

theorem runItems_changes (k : Kernel) (f : Frame) (g : Grid) (n first : Nat) (s : Execution) :
    Arena.Changes f.Writes s.arena (k.runItems f g n first s).2.arena := by
  induction n generalizing first s with
  | zero => exact .refl _ _
  | succ n ih =>
    have hbody := Body.run_changes f (k.body (g.item first)) s
    rw [runItems]
    dsimp only
    split <;> rename_i h <;> rw [h] at hbody
    · exact hbody.trans (ih _ _)
    · exact hbody

/-- A kernel changes only blocks that it was given to write. -/
theorem execute_changes (k : Kernel) (args : List LaunchArg) (g : Grid) (s : Execution) :
    Arena.Changes (k.Writes args) s.arena (k.execute args g s).2.arena := by
  rw [execute_apply]
  split
  · exact .refl _ _
  · rename_i locks hlocks
    have hcovers := LockTable.covers_acquire hlocks
    refine (runItems_changes k ⟨k.name, k.params, args, locks⟩ g g.count 0 s).mono ?_
    rintro id ⟨i, t, a, hp, ha, hl⟩
    obtain ⟨arg, harg, hid⟩ := hcovers.exists_arg hl
    exact ⟨i, t, a, arg, hp, ha, harg, hid⟩

end Kernel

/-! ### Devices -/

namespace Device

/-- `d'` differs from `d` at most in what stands in the blocks for which `W` holds, in its
counts and in its notes. -/
structure Changes (W : BlockId → Prop) (d d' : Device) : Prop where
  /-- the device is the same -/
  target : d'.target = d.target
  /-- the same calls fail -/
  faults : d'.faults = d.faults
  /-- the pool keeps the same blocks -/
  cached : d'.pool.cached = d.pool.cached
  /-- the pool keeps as many blocks of each size -/
  keep : d'.pool.keep = d.pool.keep
  /-- no call is forgotten -/
  count : ∀ c, d.count c ≤ d'.count c
  /-- the contents of other blocks are the same -/
  arena : Arena.Changes W d.pool.arena d'.pool.arena

namespace Changes

variable {W W' : BlockId → Prop} {d d' d'' : Device} {id : BlockId} {b : Block}

theorem refl (W : BlockId → Prop) (d : Device) : Changes W d d :=
  ⟨rfl, rfl, rfl, rfl, fun _ => Nat.le_refl _, .refl W _⟩

theorem trans (h : Changes W d d') (h' : Changes W d' d'') : Changes W d d'' :=
  ⟨h'.target.trans h.target, h'.faults.trans h.faults, h'.cached.trans h.cached,
    h'.keep.trans h.keep, fun c => Nat.le_trans (h.count c) (h'.count c), h.arena.trans h'.arena⟩

theorem mono (h : Changes W d d') (hW : ∀ id, W id → W' id) : Changes W' d d' :=
  { h with arena := h.arena.mono hW }

/-- The pool is the same but for its arena. -/
theorem pool_eq (h : Changes W d d') : d'.pool = { d.pool with arena := d'.pool.arena } := by
  dsimp only
  rw [← h.cached, ← h.keep]

theorem sound (h : Changes W d d') (hd : d.pool.Sound) : d'.pool.Sound :=
  h.pool_eq ▸ hd.withArena h.arena

theorem lends (h : Changes W d d') (hb : d.pool.Lends id b) :
    ∃ b', d'.pool.Lends id b' ∧ b'.size = b.size :=
  h.pool_eq ▸ hb.withArena h.arena

theorem lends_of_not (h : Changes W d d') (hb : d.pool.Lends id b) (hid : ¬ W id) :
    d'.pool.Lends id b :=
  h.pool_eq ▸ hb.withArena_of_not h.arena hid

end Changes

/-! ### Counts -/

/-- Kinds of calls have places of their own in a tally. -/
theorem rank_injective {c c' : Call} (h : c.rank = c'.rank) : c = c' := by
  cases c <;> cases c' <;> first | rfl | exact absurd h (by decide)

/-- A call that is counted makes a difference to the count of its kind alone. -/
theorem count_counted (c c' : Call) (d : Device) :
    (d.counted c).count c' = if c = c' then d.count c + 1 else d.count c' := by
  rw [count, counted]
  by_cases h : c = c'
  · subst h
    rw [if_pos rfl]
    exact Vector.getElem_set_self _
  · have hne : (c.rank : Nat) ≠ c'.rank := fun he => h (rank_injective (Fin.ext he))
    rw [if_neg h]
    exact Vector.getElem_set_ne c.rank.isLt c'.rank.isLt hne

/-- No call is forgotten when another one is counted. -/
theorem le_count_counted (c c' : Call) (d : Device) : d.count c' ≤ (d.counted c).count c' := by
  rw [count_counted]
  split
  · rename_i h
    exact h ▸ Nat.le_succ _
  · exact Nat.le_refl _

/-- A call is counted, and fails if that is its fate. -/
theorem call_apply (c : Call) (d : Device) :
    call c d =
      (if d.faults c (d.count c + 1) then
        .error (.transfer ("injected " ++ c.name ++ " fault " ++ Decimal.text (d.count c + 1)))
      else .ok (), d.counted c) := by
  rw [call]
  split <;> rfl

variable (W : BlockId → Prop) (d : Device)

/-- Counting a call changes nothing. -/
theorem call_changes (c : Call) : Changes W d (call c d).2 := by
  rw [call_apply]
  exact ⟨rfl, rfl, rfl, rfl, fun c' => le_count_counted c c' d, .refl W _⟩

theorem synchronize_changes : Changes W d (synchronize d).2 := call_changes W d _

theorem download_changes (a : Allocation) (n : Nat) : Changes W d (download a n d).2 := by
  have hcall := call_changes W d .download
  rw [download, Step.bind_apply]
  split <;> rename_i h <;> rw [h] at hcall
  · exact hcall
  · exact hcall

theorem poke_changes (a : Allocation) (src : Bytes) :
    Changes (a.block = some ·) d (poke a src d).2 := by
  rw [poke]
  split
  · rename_i m hm
    refine ⟨rfl, rfl, rfl, rfl, fun _ => Nat.le_refl _, ?_⟩
    show Arena.Changes _ d.pool.arena m
    rw [Arena.upload] at hm
    rcases hs : Arena.checkSize a src.size with e | u <;> rw [hs] at hm
    · cases hm
    · rcases hr : d.pool.arena.raw a with e | b <;> rw [hr] at hm
      · cases hm
      · cases hm
        rcases ha : a.block with _ | id
        · exact .refl _ _
        · exact (Arena.Changes.modify _ id 0 _).mono fun id' h => by rw [h]
  · exact .refl _ _

theorem upload_changes (a : Allocation) (src : Bytes) :
    Changes (a.block = some ·) d (upload a src d).2 := by
  have hcall := call_changes (a.block = some ·) d .upload
  rw [upload, Step.bind_apply]
  split <;> rename_i h <;> rw [h] at hcall
  · exact hcall.trans (poke_changes _ a src)
  · exact hcall

theorem execute_changes (k : Kernel) (args : List LaunchArg) (g : Grid) :
    Changes (k.Writes args) d (execute k args g d).2 :=
  ⟨rfl, rfl, rfl, rfl, fun _ => Nat.le_refl _, k.execute_changes args g ⟨d.pool.arena, d.notes⟩⟩

/-- A launch is counted, its arguments are checked, its grid is found, and then it runs. -/
theorem launch_apply (k : Kernel) (args : List LaunchArg) :
    launch k args d =
      match call .launch d with
      | (.error e, d₁) => (.error e, d₁)
      | (.ok _, d₁) => match k.checkArgs args with
        | .error e => (.error e, d₁)
        | .ok _ => match k.grid args with
          | .error e => (.error e, d₁)
          | .ok g => ((execute k args g d₁).1.map fun _ => g, (execute k args g d₁).2) := by
  rw [launch, Step.bind_apply]
  rcases call .launch d with ⟨e | u, d₁⟩
  · rfl
  · dsimp only
    rcases k.checkArgs args with e | u
    · rfl
    · rcases k.grid args with e | g
      · rfl
      · have hrun : (execute k args g >>= fun _ => pure g) d₁ =
            ((execute k args g d₁).1.map fun _ => g, (execute k args g d₁).2) := by
          rw [Step.bind_apply]
          rcases execute k args g d₁ with ⟨e | u, d₂⟩ <;> rfl
        exact hrun

/-- A launch gets past all checks, so that the kernel runs. -/
def Accepts (d : Device) (k : Kernel) (args : List LaunchArg) : Prop :=
  (call .launch d).1 = .ok () ∧ k.checkArgs args = .ok () ∧ ∃ g, k.grid args = .ok g

/-- A launch changes only blocks that the kernel was given to write, whether it succeeds or
not, and nothing where it is refused. -/
theorem launch_changes (k : Kernel) (args : List LaunchArg) :
    Changes (fun id => d.Accepts k args ∧ k.Writes args id) d (launch k args d).2 := by
  have hcall := call_changes (fun id => d.Accepts k args ∧ k.Writes args id) d .launch
  rw [launch_apply]
  rcases hc : call .launch d with ⟨e | u, d₁⟩ <;> rw [hc] at hcall
  · exact hcall
  · dsimp only
    rcases hk : k.checkArgs args with e | u₁
    · exact hcall
    · rcases hg : k.grid args with e | g
      · exact hcall
      · have haccepts : d.Accepts k args := ⟨congrArg Prod.fst hc, hk, g, hg⟩
        have hex := (execute_changes d₁ k args g).mono fun id hid =>
          (⟨haccepts, hid⟩ : d.Accepts k args ∧ k.Writes args id)
        exact hcall.trans hex

end Device

end Offload
