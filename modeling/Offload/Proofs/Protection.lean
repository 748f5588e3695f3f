import Offload.Proofs.Enumeration
import Offload.Proofs.Filling

/-!
# What arguments are protected from

A body is free to ask for any argument at any type, to store wherever it likes, to go on after what
was refused, and to end as it likes. All that it gets hold of are views, each of which is one of a
buffer that was passed, of the type that was declared for it and of its length; and a block that is
passed in positions for reading only is left as it was. The right to write goes with a position and
not with a block: where a block is passed twice, it can be written through the one position even
though the other one is for reading.

* `Handout` — a view that a body was given.
* `Body.handouts`, `Kernel.handouts`, `Device.handouts` — all views that a body, the bodies of some
  points and the bodies of a launch are given.
* `Kernel.Permits` — a view is one that the declarations allow.
* `Device.launch_protects` — views of a launch are permitted, and what is only read is protected.
-/

namespace Offload

/-! ### Views -/

/-- A view that a body was given. -/
structure Handout where
  /-- the argument that it asked for -/
  index : Nat
  /-- the type at which it asked -/
  type : ElementType
  /-- whether it asked for the right to write -/
  write : Bool
  /-- what it got -/
  view : View type

/-- The views that a body is given, from the first to the last. What is refused gives none, and the
body goes on. -/
def Body.handouts (f : Frame) : Body → Execution → List Handout
  | done, _ | fail _, _ | crash _, _ => []
  | count next, s => (next f.args.length).handouts f s
  | len index next, s => (next (f.len index)).handouts f s
  | scalar index t next, s => (next (f.scalar index t)).handouts f s
  | view index t next, s =>
    match f.view s.arena index t false with
    | .ok (_, v) => ⟨index, t, false, v⟩ :: (next (.ok v)).handouts f s
    | .error (.error e) => (next (.error e)).handouts f s
    | .error (.crash _) => []
  | writable index t next, s =>
    match f.view s.arena index t true with
    | .ok (_, v) => ⟨index, t, true, v⟩ :: (next (.ok v)).handouts f s
    | .error (.error e) => (next (.error e)).handouts f s
    | .error (.crash _) => []
  | store index t place v next, s =>
    match f.view s.arena index t true with
    | .ok (id, w) => ⟨index, t, true, w⟩ ::
      if place < w.len then
        (next (.ok ())).handouts f
          { s with arena := s.arena.modify id (·.patch (place * t.bytes) (t.toBytes v)) }
      else []
    | .error (.error e) => (next (.error e)).handouts f s
    | .error (.crash _) => []
  | report n next, s => next.handouts f { s with notes := s.notes.push n }

/-- The views that are given to the bodies of some points, one after the other, up to the first that
does not get done. -/
def Kernel.handouts (k : Kernel) (f : Frame) : List WorkItem → Execution → List Handout
  | [], _ => []
  | i :: r, s => (k.body i).handouts f s ++
    match (k.body i).run f s with
    | (.ok (), s') => handouts k f r s'
    | (.error _, _) => []

/-- The views that are given to the bodies of a launch. -/
def Device.handouts (d : Device) (k : Kernel) (args : List LaunchArg) : List Handout :=
  match (call .launch d).1, k.checkArgs args, k.grid args, LockTable.acquire d.pool.arena args with
  | .ok _, .ok _, .ok g, .ok locks =>
    k.handouts ⟨k.name, k.params, args, locks⟩ g.items ⟨d.pool.arena, d.notes⟩
  | _, _, _, _ => []

/-- Whatever holds of every view that can be had holds of all that a body is given. -/
theorem Body.forall_mem_handouts {f : Frame} {P : Handout → Prop}
    (hP : ∀ m i t write id v, f.view m i t write = .ok (id, v) → P ⟨i, t, write, v⟩) (b : Body)
    (s : Execution) : ∀ h ∈ b.handouts f s, P h := by
  induction b generalizing s with
  | done | fail e | crash text => exact List.forall_mem_nil _
  | count next ih => exact ih _ s
  | len index next ih => exact ih _ s
  | scalar index t next ih => exact ih _ s
  | view index t next ih | writable index t next ih =>
    rw [handouts]
    split
    · rename_i hview
      exact List.forall_mem_cons.mpr ⟨hP _ _ _ _ _ _ hview, ih _ s⟩
    · exact ih _ s
    · exact List.forall_mem_nil _
  | store index t place v next ih =>
    rw [handouts]
    split
    · rename_i id w hview
      refine List.forall_mem_cons.mpr ⟨hP _ _ _ _ _ _ hview, ?_⟩
      split
      · exact ih (.ok ()) _
      · exact List.forall_mem_nil _
    · exact ih _ s
    · exact List.forall_mem_nil _
  | report n next ih => exact ih _

namespace Kernel

variable {k : Kernel} {args : List LaunchArg}

theorem forall_mem_handouts {f : Frame} {P : Handout → Prop}
    (hP : ∀ m i t write id v, f.view m i t write = .ok (id, v) → P ⟨i, t, write, v⟩)
    (items : List WorkItem) (s : Execution) : ∀ h ∈ k.handouts f items s, P h := by
  induction items generalizing s with
  | nil => exact List.forall_mem_nil _
  | cons i r ih =>
    rw [handouts]
    refine List.forall_mem_append.mpr ⟨Body.forall_mem_handouts hP _ s, ?_⟩
    split
    · exact ih _
    · exact List.forall_mem_nil _

/-- A view is one that the declarations allow. -/
structure Permits (k : Kernel) (args : List LaunchArg) (h : Handout) : Prop where
  /-- a buffer of this type is declared, which may be written if the view is for that -/
  param : ∃ access, k.params[h.index]? = some (.buffer h.type access) ∧
    (h.write = true → access.writes = true)
  /-- the allocation that was passed is of this type, and has as many elements -/
  arg : ∃ a, args[h.index]? = some (.buffer a) ∧ h.type = a.type ∧ h.view.len = a.len

/-- Only such views can be had. -/
theorem permits_of_view {locks : LockTable} {m : Arena} {i : Nat} {t : ElementType} {write : Bool}
    {id : BlockId} {v : View t} (hcheck : k.checkArgs args = .ok ())
    (h : Frame.view ⟨k.name, k.params, args, locks⟩ m i t write = .ok (id, v)) :
    k.Permits args ⟨i, t, write, v⟩ := by
  have hb := Frame.view_inv h
  obtain ⟨-, access, hp, hw⟩ := Frame.buffer_inv hb
  obtain ⟨a, ha, hlen⟩ := Frame.arg_of_buffer hb
  have hfit := (checkArgs_inv hcheck).2 i _ _ hp ha
  have htype : t = a.type := by
    rw [checkArg] at hfit
    split at hfit
    · assumption
    · cases hfit
  exact ⟨⟨access, hp, hw⟩, a, ha, htype, hlen⟩

/-- The memory of an allocation is passed in positions for reading only. -/
def OnlyReads (k : Kernel) (args : List LaunchArg) (a : Allocation) : Prop :=
  ∀ (i : Nat) b, args[i]? = some (.buffer b) → b.block = a.block →
    ∃ t, k.params[i]? = some (.buffer t .read)

/-- It is not passed to be written. -/
theorem OnlyReads.not_writes {a : Allocation} (h : k.OnlyReads args a) {id : BlockId}
    (ha : a.block = some id) : ¬ k.Writes args id := by
  rintro ⟨i, t, access, arg, hp, hw, harg, hid⟩
  cases arg with
  | scalar v => cases hid
  | buffer b =>
    obtain ⟨t', hread⟩ := h i b harg (ha ▸ hid)
    rw [hp] at hread
    cases hread
    cases hw

end Kernel

namespace Device

/-- **Arguments that are only read are protected from any body.** Whatever the bodies of a kernel do
and however a launch ends, the block of an allocation that is passed in positions for reading only
is as it was. Every view that a body is given has the type that is declared for the argument, and
the length of the allocation that was passed. A launch with arguments that are refused is an error
and changes nothing but the count of launches. -/
theorem launch_protects (k : Kernel) (args : List LaunchArg) (d : Device) :
    (∀ a, k.OnlyReads args a →
        a.block.bind (launch k args d).2.pool.arena.get? = a.block.bind d.pool.arena.get?) ∧
      (∀ h ∈ d.handouts k args, k.Permits args h) ∧
      ∀ e, k.checkArgs args = .error e →
        launch k args d = ((call .launch d).1.bind fun _ => .error e, d.counted .launch) := by
  refine ⟨fun a ha => ?_, ?_, fun e he => ?_⟩
  · rcases hid : a.block with _ | id
    · rfl
    · exact (launch_changes d k args).arena.same id fun h => ha.not_writes hid h.2
  · rw [handouts]
    split
    · rename_i g locks hcall hcheck hgrid hlocks
      have hpermits (m : Arena) i t write id v
          (h : Frame.view ⟨k.name, k.params, args, locks⟩ m i t write = .ok (id, v)) :
          k.Permits args ⟨i, t, write, v⟩ := Kernel.permits_of_view hcheck h
      exact Kernel.forall_mem_handouts hpermits _ _
    · exact List.forall_mem_nil _
  · have hcounted : (call .launch d).2 = d.counted .launch := by rw [call_apply]
    rw [launch_apply, he, ← hcounted]
    rcases call .launch d with ⟨e' | u, d'⟩ <;> rfl

/-- Two blocks, of which the second one is passed both to be written and to be read. The body is
refused when it turns to the first block, and does not mind: it stores a byte in the second one,
sees it in the other position, and gets done. -/
theorem launch_protects_shared :
    let byte : ElementType := .scalar .uint8
    let k : Kernel := ⟨⟨0⟩, "k", [.buffer byte .read, .buffer byte .write, .buffer byte .read],
      ⟨[.fixed 1]⟩, fun _ =>
        .store 0 byte 0 (7 : UInt8) fun _ => .store 1 byte 0 (7 : UInt8) fun _ =>
          .view 2 byte fun _ => .done⟩
    let d := (allocate byte 1 (allocate byte 2 (cpu none 0)).2).2
    let a : Allocation := ⟨byte, 2, some ⟨0⟩⟩
    let b : Allocation := ⟨byte, 1, some ⟨1⟩⟩
    let args : List LaunchArg := [.buffer a, .buffer b, .buffer b]
    k.OnlyReads args a ∧ (launch k args d).2.pool.arena.get? ⟨0⟩ = d.pool.arena.get? ⟨0⟩ ∧
      (d.handouts k args).map Handout.index = [1, 2] ∧
      (∀ h ∈ d.handouts k args, k.Permits args h) ∧
      (launch k args d).1 = .ok (.ofSizes [1]) ∧
      (launch k args d).2.pool.arena.download b 1 = .ok #[7] := by
  intro byte k d a b args
  obtain ⟨hprotected, hpermitted, -⟩ := launch_protects k args d
  have hreads : k.OnlyReads args a := by
    intro i c hc hblock
    match i with
    | 0 => exact ⟨byte, rfl⟩
    | 1 | 2 =>
      obtain rfl : b = c := LaunchArg.buffer.inj (Option.some.inj hc)
      cases hblock
    | n + 3 => cases hc
  have hsame := hprotected a hreads
  have hblock : a.block = some ⟨0⟩ := rfl
  rw [hblock, Option.bind_some, Option.bind_some] at hsame
  exact ⟨hreads, hsame, by decide +kernel, hpermitted, by decide +kernel, by decide +kernel⟩

end Device

end Offload
