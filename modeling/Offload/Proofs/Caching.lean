import Offload.Proofs.Ledger

/-!
# Caching costs no memory

A client asks for blocks, writes into them and gives them back, in any order. Whether it asks an
arena or a pool in front of an arena makes no difference to what it is granted: what the pool
keeps is given back when it is in the way.

* `Allocator` — what a client asks, with an arena and a pool as its two kinds.
* `MemoryCall`, `Client.run` — what a client does, and a client at work.
* `MemoryCall.expected` — what is granted, worked out from the sizes of live blocks alone.
* `Client.caching_costs_nothing` — an arena and a pool both grant just that, and a block that is
  to hold zeros does.
-/

namespace Offload

/-- Somebody who hands out blocks, and the memory that the blocks are in. -/
structure Allocator (μ : Type) where
  /-- hand out a block of some size, with zeros in it if they are wanted -/
  alloc : μ → Nat → Bool → Except DeviceError BlockId × μ
  /-- take a block back -/
  free : μ → BlockId → μ
  /-- do without what is kept for later -/
  trim : μ → μ
  /-- the memory -/
  arena : μ → Arena
  /-- the same with other contents of the memory -/
  withArena : μ → Arena → μ

namespace Allocator

/-- An arena. It keeps nothing for later, and its blocks always hold zeros. -/
def bare : Allocator Arena where
  alloc m size _ := m.alloc size
  free := Arena.free
  trim m := m
  arena m := m
  withArena _ m := m

/-- A pool in front of an arena. -/
def caching : Allocator Pool where
  alloc := Pool.alloc
  free := Pool.free
  trim := Pool.trim
  arena := Pool.arena
  withArena p m := { p with arena := m }

end Allocator

/-- Something that a client does. Blocks are counted in the order in which they were granted. -/
inductive MemoryCall where
  /-- ask for a block -/
  | alloc (size : Nat) (zero : Bool)
  /-- give the `n`-th block back, unless it was given back before -/
  | free (n : Nat)
  /-- have everything that is kept for later given up -/
  | trim
  /-- write into the `n`-th block, unless it was given back -/
  | write (n : Nat) (offset : Nat) (xs : List UInt8)

/-- Somebody who uses memory. -/
structure Client (μ : Type) where
  /-- where the memory comes from -/
  memory : μ
  /-- the blocks that were granted, in order; nothing in place of those that were given back -/
  blocks : List (Option BlockId)

namespace Client

variable {μ : Type}

/-- A client that has nothing yet. -/
def start (m : μ) : Client μ := ⟨m, []⟩

/-- The `n`-th block, unless it was given back. -/
def block? (x : Client μ) (n : Nat) : Option BlockId := x.blocks[n]?.join

/-- The blocks that were not given back. -/
def live (x : Client μ) : List BlockId := x.blocks.flatMap Option.toList

/-- The sizes of the blocks that were granted; nothing in place of those that were given back. -/
def sizes (A : Allocator μ) (x : Client μ) : List (Option Nat) :=
  x.blocks.map (·.bind (A.arena x.memory).size?)

/-- Do something. The result says whether it was granted, as everything is but blocks. -/
def step (A : Allocator μ) (x : Client μ) : MemoryCall → Bool × Client μ
  | .alloc size zero => match A.alloc x.memory size zero with
    | (.ok id, m) => (true, ⟨m, x.blocks ++ [some id]⟩)
    | (.error _, m) => (false, ⟨m, x.blocks⟩)
  | .free n => (true, ⟨(x.block? n).elim x.memory (A.free x.memory), x.blocks.set n none⟩)
  | .trim => (true, ⟨A.trim x.memory, x.blocks⟩)
  | .write n offset xs => (true, ⟨(x.block? n).elim x.memory fun id =>
      A.withArena x.memory ((A.arena x.memory).modify id (·.patch offset xs)), x.blocks⟩)

/-- Do several things in order. The results say which of them were granted. -/
def run (A : Allocator μ) : List MemoryCall → Client μ → List Bool × Client μ
  | [], x => ([], x)
  | c :: r, x =>
    let (granted, x) := x.step A c
    let (rest, x) := run A r x
    (granted :: rest, x)

end Client

/-! ### What to expect -/

/-- The sizes of live blocks together. -/
def liveBytes (sizes : List (Option Nat)) : Nat := (sizes.filterMap id).sum

/-- Whether a call is granted where no more than `limit` bytes can be live, and the sizes of the
blocks afterwards. -/
def MemoryCall.expected (limit : Nat) (sizes : List (Option Nat)) :
    MemoryCall → Bool × List (Option Nat)
  | alloc size _ =>
    if liveBytes sizes + size ≤ limit then (true, sizes ++ [some size]) else (false, sizes)
  | free n => (true, sizes.set n none)
  | trim | write _ _ _ => (true, sizes)

/-- What is granted of several calls. -/
def MemoryCall.expectedAll (limit : Nat) :
    List MemoryCall → List (Option Nat) → List Bool × List (Option Nat)
  | [], sizes => ([], sizes)
  | c :: r, sizes =>
    let (granted, sizes) := c.expected limit sizes
    let (rest, sizes) := expectedAll limit r sizes
    (granted :: rest, sizes)

/-- An allocator keeps its books: `Owes m out` says that the blocks of `out` are those that are
live. A request is refused only where it exceeds the limit together with them. -/
structure Allocator.Honest {μ : Type} (A : Allocator μ) (limit : Nat)
    (Owes : μ → List BlockId → Prop) : Prop where
  /-- the order does not matter -/
  perm : ∀ {m out out'}, Owes m out → out.Perm out' → Owes m out'
  /-- what is live stays within the limit -/
  total_le : ∀ {m out}, Owes m out → (A.arena m).total out ≤ limit
  /-- a request -/
  alloc : ∀ {m m' out size zero r}, Owes m out → A.alloc m size zero = (r, m') →
    (∀ id ∈ out, (A.arena m').size? id = (A.arena m).size? id) ∧
      ((∃ id, r = .ok id ∧ Owes m' (id :: out) ∧ (A.arena m').size? id = some size ∧
          (zero = true → (A.arena m').get? id = some (.zeroed size))) ∨
        (∃ e, r = .error e) ∧ Owes m' out ∧ limit < (A.arena m).total out + size)
  /-- a block that is given back -/
  free : ∀ {m id out}, Owes m (id :: out) → Owes (A.free m id) out ∧
    ∀ id' ∈ out, (A.arena (A.free m id)).size? id' = (A.arena m).size? id'
  /-- doing without what is kept -/
  trim : ∀ {m out}, Owes m out → Owes (A.trim m) out ∧
    ∀ id ∈ out, (A.arena (A.trim m)).size? id = (A.arena m).size? id
  /-- other contents -/
  write : ∀ {m out id offset xs}, Owes m out →
    Owes (A.withArena m ((A.arena m).modify id (·.patch offset xs))) out ∧
      ∀ id' ∈ out, (A.arena (A.withArena m ((A.arena m).modify id (·.patch offset xs)))).size? id' =
        (A.arena m).size? id'

namespace Allocator

theorem honest_bare (limit : Nat) :
    bare.Honest limit fun m out => m.Holds out ∧ m.capacity = some limit where
  perm h hperm := ⟨h.1.perm hperm, h.2⟩
  total_le h := h.1.used ▸ h.1.within _ h.2
  alloc := by
    rintro m m' out size zero r ⟨hm, hc⟩ h
    rcases r with e | id
    · obtain ⟨c, hc', hlt⟩ := hm.lt_of_alloc h
      obtain rfl := Option.some.inj (hc.symm.trans hc')
      obtain rfl := (Arena.alloc_error_inv h).2
      exact ⟨fun _ _ => rfl, .inr ⟨⟨e, rfl⟩, ⟨hm, hc⟩, hlt⟩⟩
    · have hself := Arena.get?_alloc_self h
      exact ⟨fun _ => hm.size?_of_alloc h, .inl ⟨id, rfl,
        ⟨hm.alloc h, (Arena.alloc_inv h).2.1.trans hc⟩, Arena.size?_of_get? hself, fun _ => hself⟩⟩
  free h := ⟨⟨h.1.free, (Arena.capacity_free _ _).trans h.2⟩, fun _ => h.1.size?_of_free⟩
  trim h := ⟨h, fun _ _ => rfl⟩
  write := by
    rintro m out id offset xs ⟨hm, hc⟩
    have h := Arena.Changes.modify m id offset xs
    exact ⟨⟨hm.changes h, hc⟩, fun id' _ => h.sizes id'⟩

theorem honest_caching (limit keep : Nat) :
    caching.Honest limit fun p out => p.Balanced (some limit) keep out where
  perm h hperm := h.perm hperm
  total_le h := h.total_le
  alloc := by
    intro p p' out size zero r hp h
    obtain ⟨hsame, hok | ⟨he, hp', c, hc, hlt⟩⟩ := hp.alloc h
    · exact ⟨hsame, .inl hok⟩
    · obtain rfl := Option.some.inj hc
      exact ⟨hsame, .inr ⟨he, hp', hlt⟩⟩
  free h := h.free
  trim h := h.trim
  write h :=
    have hmodify := Arena.Changes.modify _ _ _ _
    ⟨h.changes hmodify, fun id _ => hmodify.sizes id⟩

end Allocator

/-! ### Clients -/

namespace Client

variable {μ : Type} {A : Allocator μ} {limit : Nat} {Owes : μ → List BlockId → Prop} {x : Client μ}

/-- The books say how many bytes are live. -/
theorem liveBytes_sizes (A : Allocator μ) (x : Client μ) :
    liveBytes (x.sizes A) = (A.arena x.memory).total x.live := by
  simp only [liveBytes, sizes, live, Arena.total]
  induction x.blocks with
  | nil => rfl
  | cons b r ih =>
    rcases b with _ | id
    · simpa using ih
    · rcases hid : (A.arena x.memory).size? id with _ | size
      · simpa [hid] using ih
      · simpa [hid] using ih

/-- The sizes of the same blocks in another memory where they have the same sizes. -/
theorem sizes_congr {m : Arena} {blocks : List (Option BlockId)} {m' : Arena}
    (h : ∀ id ∈ blocks.flatMap Option.toList, m'.size? id = m.size? id) :
    blocks.map (·.bind m'.size?) = blocks.map (·.bind m.size?) := by
  refine List.map_congr_left ?_
  intro b hb
  rcases b with _ | id
  · rfl
  · exact h id (List.mem_flatMap.mpr ⟨_, hb, by simp⟩)

/-- A block that is given back is not live any more. -/
theorem perm_live {n : Nat} {id : BlockId} (h : x.block? n = some id) :
    x.live.Perm (id :: (x.blocks.set n none).flatMap Option.toList) := by
  obtain h' : x.blocks[n]? = some (some id) := by
    rw [block?] at h
    rcases hn : x.blocks[n]? with _ | b <;> rw [hn] at h
    · cases h
    · exact congrArg some h
  exact (perm_flatMap_set Option.toList none h').symm

/-- There is nothing to give back in place of a block that is not live. -/
theorem set_of_block?_none {n : Nat} (h : x.block? n = none) : x.blocks.set n none = x.blocks := by
  refine List.ext_getElem? ?_
  intro i
  rw [List.getElem?_set]
  split
  · rename_i hi
    subst hi
    rw [block?] at h
    rcases hn : x.blocks[n]? with _ | b
    · rw [if_neg (Nat.not_lt_of_le (List.getElem?_eq_none_iff.mp hn))]
    · rw [hn] at h
      obtain rfl : b = none := h
      rw [if_pos (List.getElem?_eq_some_iff.mp hn).1]
  · rfl

/-- Whatever a client does, it is granted what is to be expected, and blocks have the sizes that
are to be expected. -/
theorem step_expected (hA : A.Honest limit Owes) (hx : Owes x.memory x.live) (c : MemoryCall) :
    (x.step A c).1 = (c.expected limit (x.sizes A)).1 ∧
      (x.step A c).2.sizes A = (c.expected limit (x.sizes A)).2 ∧
      Owes (x.step A c).2.memory (x.step A c).2.live := by
  cases c with
  | alloc size zero =>
    rcases h : A.alloc x.memory size zero with ⟨r, m⟩
    simp only [step, MemoryCall.expected, h, liveBytes_sizes]
    obtain ⟨hsame, ⟨id, rfl, howes, hsize, -⟩ | ⟨⟨e, rfl⟩, howes, hlt⟩⟩ := hA.alloc hx h
    · have hle := hA.total_le howes
      rw [Arena.total_cons hsize, Arena.total_congr hsame] at hle
      rw [if_pos (by omega)]
      refine ⟨rfl, ?_, hA.perm howes ?_⟩
      · simp only [sizes, List.map_append, List.map_cons, List.map_nil, Option.bind_some, hsize]
        rw [sizes_congr hsame]
      · simpa [live] using (List.perm_append_singleton id x.live).symm
    · rw [if_neg (Nat.not_le_of_lt hlt)]
      exact ⟨rfl, sizes_congr hsame, howes⟩
  | free n =>
    simp only [step, MemoryCall.expected, true_and]
    rcases h : x.block? n with _ | id
    · -- nothing is given back, and nothing was there
      have hset := set_of_block?_none h
      have hsizes : (x.sizes A).set n none = x.sizes A := by
        rw [sizes, show (none : Option Nat) = (none : Option BlockId).bind
          (A.arena x.memory).size? from rfl, ← List.map_set, hset]
      rw [hset, hsizes]
      exact ⟨rfl, hx⟩
    · obtain ⟨howes, hsame⟩ := hA.free (hA.perm hx (perm_live h))
      exact ⟨(sizes_congr hsame).trans List.map_set, howes⟩
  | trim =>
    obtain ⟨howes, hsame⟩ := hA.trim hx
    exact ⟨rfl, sizes_congr hsame, howes⟩
  | write n offset xs =>
    simp only [step, MemoryCall.expected, true_and]
    rcases h : x.block? n with _ | id
    · exact ⟨rfl, hx⟩
    · obtain ⟨howes, hsame⟩ := hA.write hx
      exact ⟨sizes_congr hsame, howes⟩

/-- The same of everything that a client does. -/
theorem run_expected (hA : A.Honest limit Owes) (hx : Owes x.memory x.live)
    (cs : List MemoryCall) :
    (run A cs x).1 = (MemoryCall.expectedAll limit cs (x.sizes A)).1 ∧
      (run A cs x).2.sizes A = (MemoryCall.expectedAll limit cs (x.sizes A)).2 ∧
      Owes (run A cs x).2.memory (run A cs x).2.live := by
  induction cs generalizing x with
  | nil => exact ⟨rfl, rfl, hx⟩
  | cons c r ih =>
    obtain ⟨hgranted, hsizes, howes⟩ := step_expected hA hx c
    obtain ⟨hgranted', hsizes', howes'⟩ := ih howes
    simp only [run, MemoryCall.expectedAll]
    rw [hsizes] at hgranted' hsizes'
    exact ⟨by rw [hgranted, hgranted'], hsizes', howes'⟩

/-- What comes of the next request, at any time. -/
theorem alloc_expected (hA : A.Honest limit Owes) (hx : Owes x.memory x.live) (size : Nat)
    (zero : Bool) :
    ((A.alloc x.memory size zero).1.isOk ↔ liveBytes (x.sizes A) + size ≤ limit) ∧
      ∀ id, (A.alloc x.memory size zero).1 = .ok id →
        (A.arena (A.alloc x.memory size zero).2).size? id = some size ∧
          (zero = true →
            (A.arena (A.alloc x.memory size zero).2).get? id = some (.zeroed size)) := by
  rcases h : A.alloc x.memory size zero with ⟨r, m⟩
  rw [liveBytes_sizes]
  obtain ⟨hsame, ⟨id, rfl, howes, hsize, hzero⟩ | ⟨⟨e, rfl⟩, howes, hlt⟩⟩ := hA.alloc hx h
  · have hle := hA.total_le howes
    rw [Arena.total_cons hsize, Arena.total_congr hsame] at hle
    refine ⟨iff_of_true rfl (by omega), ?_⟩
    intro id' hid'
    cases hid'
    exact ⟨hsize, hzero⟩
  · exact ⟨iff_of_false Bool.false_ne_true (Nat.not_le_of_lt hlt), nofun⟩

/-- Whatever a client does, an arena and a pool in front of an arena of the same capacity grant
the same, and live blocks have the same sizes. The next request is granted by either just where
it stays within the capacity together with what is live; the block has the size asked for, and
where zeros are wanted it holds nothing else, whatever the pool kept it from. -/
theorem caching_costs_nothing (capacity keep : Nat) (calls : List MemoryCall) :
    let x := run .bare calls (start (.empty (some capacity)))
    let y := run .caching calls (start (.empty (some capacity) keep))
    y.1 = x.1 ∧ y.2.sizes .caching = x.2.sizes .bare ∧
      ∀ size zero,
        ((y.2.memory.alloc size zero).1.isOk ↔ (x.2.memory.alloc size).1.isOk) ∧
        ((y.2.memory.alloc size zero).1.isOk ↔
          liveBytes (y.2.sizes .caching) + size ≤ capacity) ∧
        ∀ id, (y.2.memory.alloc size zero).1 = .ok id →
          (y.2.memory.alloc size zero).2.arena.size? id = some size ∧
          (zero = true →
            (y.2.memory.alloc size zero).2.arena.get? id = some (.zeroed size)) := by
  intro x y
  obtain ⟨hgranted, hsizes, howes⟩ := run_expected (x := start (Arena.empty (some capacity)))
    (Allocator.honest_bare capacity) ⟨Arena.Holds.empty (some capacity), rfl⟩ calls
  obtain ⟨hgranted', hsizes', howes'⟩ := run_expected (x := start (Pool.empty (some capacity) keep))
    (Allocator.honest_caching capacity keep) (Pool.Balanced.empty (some capacity) keep) calls
  have hsame : y.2.sizes .caching = x.2.sizes .bare := hsizes'.trans hsizes.symm
  refine ⟨hgranted'.trans hgranted.symm, hsame, ?_⟩
  intro size zero
  obtain ⟨hok, -⟩ := alloc_expected (Allocator.honest_bare capacity) howes size zero
  obtain ⟨hok', hblock⟩ := alloc_expected (Allocator.honest_caching capacity keep) howes' size zero
  have hiff := hok'.trans (hsame ▸ hok).symm
  exact ⟨hiff, hok', hblock⟩

end Client

end Offload
