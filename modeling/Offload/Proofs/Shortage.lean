import Offload.Proofs.Station

/-!
# Refused requests

A request that is refused was put to the arena twice, before and after the pool gave back what it
kept. The error is that of the first attempt, so the number of bytes that it calls available is
that of the bytes that were left before anything was given back. It falls short of what is left
afterwards by the bytes that the pool kept.

* `Pool.alloc_error_inv` — a refusal, and the pool after it.
* `Pool.Balanced.shortage` — what is left before and after, by the books.
* `Station.shortage_of_refused` — the figure in the error, whatever was done on the device before.
-/

namespace Offload

namespace Pool

variable {limit keep size : Nat} {p p' : Pool} {out : List BlockId} {zero : Bool} {e : DeviceError}

/-- The sizes of the blocks that are kept, together. -/
def keptBytes (p : Pool) : Nat := (p.cached.map Prod.fst).sum

/-- A refusal is that of the arena as it was, and by then the pool has given everything back. -/
theorem alloc_error_inv (h : p.alloc size zero = (.error e, p')) :
    e = .outOfMemory size p.arena.available ∧ p' = p.trim := by
  rw [alloc] at h
  split at h
  · cases h
  · rw [allocFresh] at h
    split at h
    · cases h
    · rename_i hfirst
      split at h <;> cases h
      exact ⟨(Arena.alloc_error_inv hfirst).1, rfl⟩

namespace Balanced

/-- Blocks are kept under their sizes. -/
theorem total_keptIds {limit : Option Nat} (hp : p.Balanced limit keep out) :
    p.arena.total p.keptIds = p.keptBytes := by
  have hsizes : p.cached.filterMap (p.arena.size? ∘ Prod.snd) =
      p.cached.filterMap (some ∘ Prod.fst) :=
    List.filterMap_congr fun entry h => hp.sizes entry.1 entry.2 h
  rw [Arena.total, keptIds, keptBytes, List.filterMap_map, hsizes, List.filterMap_eq_map]

/-- What a refusal says, and what is left before and after it. -/
theorem shortage (hp : p.Balanced (some limit) keep out)
    (h : p.alloc size zero = (.error e, p')) :
    e = .outOfMemory size (limit - p.arena.used) ∧ p'.cached = [] ∧
      p'.arena.used = p.arena.total out ∧ p.arena.used = p'.arena.used + p.keptBytes ∧
      p.arena.used ≤ limit ∧ limit < p'.arena.used + size := by
  obtain ⟨he, rfl⟩ := alloc_error_inv h
  obtain ⟨-, ⟨_, hok, -⟩ | ⟨-, -, c, hc, hlt⟩⟩ := hp.alloc h
  · cases hok
  obtain rfl : limit = c := Option.some.inj hc
  obtain ⟨htrim, hsame⟩ := hp.trim
  have hafter : p.trim.arena.used = p.arena.total out := by
    rw [htrim.holds.used, show p.trim.keptIds = [] from rfl, List.append_nil]
    exact Arena.total_congr hsame
  have hbefore : p.arena.used = p.trim.arena.used + p.keptBytes := by
    rw [hafter, hp.holds.used, Arena.total_append, hp.total_keptIds]
  rw [Arena.available, hp.capacity] at he
  exact ⟨he, rfl, hafter, hbefore, hp.holds.within limit hp.capacity, hafter ▸ hlt⟩

end Balanced

end Pool

namespace Station

/-- Whatever was done on a device with a limit: where an allocation is refused for want of
memory, the error tells the bytes that were asked for and, as available, the bytes that were left
before the call, which are fewer. The call leaves nothing in the pool and in use what allocations
hold. So more is left after the call than the error says, by as much as the pool kept, and the
figure is right just where it kept no bytes. The request exceeds what is left in any case. -/
theorem shortage_of_refused (limit keep : Nat) (faults : Call → Nat → Bool) (hosts : HostMemory)
    (orders : List Order) (t : ElementType) (len : Nat) :
    let w := applyAll orders (start (some limit) keep faults hosts)
    ∀ e d, Device.allocate t len w.device = (.error e, d) →
      ∃ available, e = .outOfMemory (t.bytes * len) available ∧ available < t.bytes * len ∧
        available = limit - w.device.memoryUsed ∧
        d.cachedBlocks = 0 ∧ d.memoryUsed = w.device.pool.arena.total w.out ∧
        limit - d.memoryUsed = available + w.device.pool.keptBytes ∧
        (available = limit - d.memoryUsed ↔ w.device.pool.keptBytes = 0) ∧
        limit - d.memoryUsed < t.bytes * len := by
  intro w e d h
  have hw : w.Orderly (some limit) keep faults :=
    (Orderly.start (some limit) keep faults hosts).applyAll orders
  rcases hp : w.device.pool.alloc (t.bytes * len) true with ⟨e' | id, p⟩ <;>
    rw [Device.allocate_of_alloc hp] at h <;> cases h
  obtain ⟨rfl, hcached, hused, hkept, hwithin, hlt⟩ := hw.books.shortage hp
  simp only [Device.memoryUsed]
  exact ⟨_, rfl, by omega, rfl, congrArg List.length hcached, hused, by omega, by omega, by omega⟩

/-- One block is out, and three that were released are kept, two of them of the same size. -/
theorem shortage_of_refused_mixed :
    let w := applyAll [.allocate (.scalar .uint8) 4, .allocate (.scalar .uint16) 2,
        .allocate (.scalar .uint8) 4, .allocate (.scalar .uint32) 2, .release 1, .release 2,
        .release 3] (start (some 20) Pool.defaultKeep (fun _ _ => false) ⟨#[]⟩)
    let (r, d) := Device.allocate (.scalar .uint8) 17 w.device
    r = .error (.outOfMemory 17 0) ∧ d.memoryUsed = 4 ∧ 20 - d.memoryUsed = 0 + 16 := by
  obtain ⟨available, he, -, -, -, -, hfree, -⟩ := shortage_of_refused 20 Pool.defaultKeep
    (fun _ _ => false) ⟨#[]⟩ [.allocate (.scalar .uint8) 4, .allocate (.scalar .uint16) 2,
      .allocate (.scalar .uint8) 4, .allocate (.scalar .uint32) 2, .release 1, .release 2,
      .release 3] (.scalar .uint8) 17 (.outOfMemory 17 0) _ rfl
  cases he
  exact ⟨rfl, by decide, hfree⟩

/-- A block is released and kept, and the next allocation takes more than the limit. All sixteen
bytes are free then, and the error calls eight of them available. -/
theorem shortage_understated :
    let w := applyAll [.allocate (.scalar .uint8) 8, .release 0]
      (start (some 16) Pool.defaultKeep (fun _ _ => false) ⟨#[]⟩)
    let (r, d) := Device.allocate (.scalar .uint8) 17 w.device
    r = .error (.outOfMemory 17 8) ∧ 16 - d.memoryUsed = 16 ∧ 8 ≠ 16 - d.memoryUsed :=
  ⟨rfl, by decide, by decide⟩

end Station

end Offload
