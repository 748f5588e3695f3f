import Offload.Proofs.Replay
import Offload.Proofs.Rerun

/-!
# History leaves no trace

A graph has been built and used in any way. If it copies whatever it reads on every run, or has a
kernel write it, nothing of what was done before can be told from the next run: a graph that is
built anew about the buffers that are in the slots by then comes to the same end, and leaves the
same contents in host memory.

* `Fleet.rebuild` — the graph that is built anew, on another machine.
* `Fleet.execute_rebuild` — the two graphs come to the same end.
* `Kernel.fill` — a kernel that is a function of what it reads.
-/

namespace Offload

open Step

/-! ### New graphs -/

/-- What holds of a machine, whoever uses it. -/
structure Machine.Sound (κ : KernelId → Kernel) (m : Machine) : Prop where
  /-- the pool is sound -/
  pool : m.context.device.pool.Sound
  /-- programs are those of the kernels that they are filed under -/
  programs : m.context.Faithful κ

/-- A new graph is sound on any machine. -/
theorem Machine.Sound.site {κ : KernelId → Kernel} {m : Machine} (hm : m.Sound κ) (name : String) :
    Site.Sound κ ⟨m, .empty name⟩ where
  workspace := .empty hm.pool
  programs := hm.programs
  known _ hn := absurd hn List.not_mem_nil
  built := .empty name

namespace Site.Replica

variable {κ : KernelId → Kernel} {m : Machine} {g : Graph} {s t : Site}

/-- A new graph is like any other new graph. -/
theorem empty {T : SlotTable} {name name' : String} (hm : m.Sound κ) (hname : name' = name) :
    Replica κ T m (.empty name) ⟨m, .empty name'⟩ where
  sound := hm.site name'
  machine := rfl
  live := Phase.noConfusion
  name := hname
  nodes := rfl
  slots := ⟨.empty, rfl, fun _ hs => absurd hs (Nat.not_lt_zero _)⟩

/-- A graph that was built again, with the buffers that are in the slots, has the same buffers. -/
theorem host_eq (h : Replica κ s.graph.table m s.graph t) (slot : SlotId) :
    (t.graph.table.get slot).host = (s.graph.table.get slot).host := by
  by_cases hs : s.graph.table.Has slot
  · exact h.slots.host slot hs
  · rw [SlotTable.get_of_not_has hs, SlotTable.get_of_not_has (mt (h.slots.has slot).mp hs)]

/-- Runs of the two graphs may begin. -/
theorem twins (h : Replica κ s.graph.table m s.graph t) (hs : s.Sound κ)
    (hhosts : m.hosts.contents = s.machine.hosts.contents)
    (htarget : m.context.device.target = s.machine.context.device.target) :
    Site.Twins κ s t (fun _ => False) s t where
  workspace :=
    { left := ⟨hs.workspace, hs.programs, .refl _, fun _ => Iff.rfl⟩
      right := ⟨h.sound.workspace, h.sound.programs, .refl _, fun _ => Iff.rfl⟩
      target := (congrArg (fun m : Machine => m.context.device.target) h.machine).trans htarget
      hosts := (congrArg (fun m : Machine => m.hosts.contents) h.machine).trans hhosts
      has := h.slots.has
      buffer := h.host_eq
      bytes := fun _ => False.elim }
  nodes := h.nodes
  title := h.name
  left := rfl
  right := rfl

end Site.Replica

/-! ### A kernel that fills what it writes -/

/-- Store a byte in the first `n` places of the first argument. -/
def Body.fill (v : UInt8) : Nat → Body
  | 0 => .done
  | n + 1 => .store 0 (.scalar .uint8) n v (.orFail fun _ => fill v n)

/-- A kernel that fills a buffer with a byte. -/
def Kernel.fill (v : UInt8) (id : KernelId) : Kernel where
  id := id
  name := "fill"
  params := [.buffer (.scalar .uint8) .write]
  space := ⟨[.fixed 1]⟩
  body _ := .len 0 (.orFail (Body.fill v))

/-- What the body sees of the buffer. -/
theorem Frame.view_of_buffer {f : Frame} {m : Arena} {id : BlockId} {len : Nat} {b : Block}
    (hf : f.buffer 0 (.scalar .uint8) true = .ok (id, len)) (hb : m.get? id = some b)
    (hlen : len ≤ b.cells.size) :
    f.view m 0 (.scalar .uint8) true = .ok (id, ⟨b.cells, len⟩) := by
  have hfits : len * (ElementType.scalar .uint8).bytes ≤ b.cells.size := by
    show len * 1 ≤ _
    omega
  rw [view, hf]
  simp only [hb, Option.elim_some, if_pos hfits]

/-- A byte takes up one byte. -/
theorem ElementType.toBytes_uint8 (v : UInt8) : (ElementType.scalar .uint8).toBytes v = [v] := by
  show [v.toNat.toUInt8] = [v]
  simp

/-- What was stored stands in the first places, whatever was there. -/
theorem Body.run_fill {v : UInt8} {f : Frame} {id : BlockId} {len : Nat}
    (hf : f.buffer 0 (.scalar .uint8) true = .ok (id, len)) (n : Nat) (hn : n ≤ len) (s : Execution)
    (b : Block) (hb : s.arena.get? id = some b) (hlen : len ≤ b.cells.size) :
    ∃ s' b', (Body.fill v n).run f s = (.ok (), s') ∧ s'.arena.get? id = some b' ∧
      b'.size = b.size ∧ ∀ i, b'.cells.getD i 0 = if i < n then v else b.cells.getD i 0 := by
  induction n generalizing s b with
  | zero => exact ⟨s, b, rfl, hb, rfl, fun i => (if_neg (Nat.not_lt_zero i)).symm⟩
  | succ n ih =>
    -- the last place first
    have hstored : (s.arena.modify id (·.patch (n * 1) [v])).get? id =
        some (b.patch (n * 1) [v]) := by
      rw [Arena.get?_modify_self, hb, Option.map_some]
    obtain ⟨s', b', hrun, hb', hsize, hcells⟩ := ih (Nat.le_of_succ_le hn)
      { s with arena := s.arena.modify id (·.patch (n * 1) [v]) } (b.patch (n * 1) [v]) hstored
      (by rw [Block.patch, Bytes.size_overwrite]; exact hlen)
    refine ⟨s', b', ?_, hb', hsize, ?_⟩
    · rw [fill, run]
      dsimp only
      rw [Frame.view_of_buffer hf hb hlen]
      dsimp only
      rw [if_pos (Nat.lt_of_succ_le hn), ElementType.toBytes_uint8]
      exact hrun
    · intro i
      rw [hcells, Nat.mul_one]
      show (if i < n then v else (b.cells.overwrite n [v]).getD i 0) = _
      by_cases hi : i = n
      · subst hi
        rw [if_neg (Nat.lt_irrefl i), if_pos (Nat.lt_succ_self i)]
        exact Bytes.getD_overwrite_of_mem b.cells i [v] (Nat.le_trans hn hlen) (k := 0)
          Nat.one_pos
      · rw [Bytes.getD_overwrite_of_not_mem b.cells n [v] (by rw [List.length_singleton]; omega)]
        have hlt : i < n ↔ i < n + 1 := by omega
        simp only [hlt]

/-- All bytes of the buffer are the same in the end. -/
theorem Kernel.execute_fill (v : UInt8) (k : KernelId) {a : Allocation} {m : Arena}
    (notes : Array Note) (ht : a.type = .scalar .uint8) (hm : Ready m [.buffer a]) :
    ((fill v k).execute [.buffer a] (.ofSizes [1]) ⟨m, notes⟩).1 = .ok () ∧
      contentAt ((fill v k).execute [.buffer a] (.ofSizes [1]) ⟨m, notes⟩).2.arena [.buffer a] 0 =
        some (Array.replicate a.len v) := by
  obtain ⟨c, hc, hsize⟩ := hm a List.mem_cons_self
  obtain ⟨b, hraw, rfl⟩ := Option.map_eq_some_iff.mp hc
  obtain ⟨id, ha, hb⟩ := Option.bind_eq_some_iff.mp hraw
  replace ha : a.block = some id := ha
  replace hsize : b.size = a.len := by
    rw [Block.size_content, Allocation.size, ht] at hsize
    exact hsize.trans (Nat.one_mul _)
  have hlocks : LockTable.acquire m [.buffer a] = .ok ⟨[some 0], [id]⟩ := by
    rw [LockTable.acquire, LockTable.acquireFrom, ha]
    simp [hb, LockTable.acquireFrom, LockTable.hold, LockTable.empty]
  have hlen : a.len ≤ b.cells.size := by
    rw [b.aligned, hsize]
    exact le_wordAligned _
  have hbuffer : Frame.buffer ⟨(fill v k).name, (fill v k).params, [.buffer a],
      ⟨[some 0], [id]⟩⟩ 0 (.scalar .uint8) true = .ok (id, a.len) := rfl
  obtain ⟨s', b', hrun, hb', hsize', hcells⟩ :=
    Body.run_fill (v := v) hbuffer a.len (Nat.le_refl _) ⟨m, notes⟩ b hb hlen
  have hbody : ((fill v k).body ((Grid.ofSizes [1]).item 0)).run
      ⟨(fill v k).name, (fill v k).params, [.buffer a], ⟨[some 0], [id]⟩⟩ ⟨m, notes⟩ =
        (.ok (), s') := hrun
  have hexecute : (fill v k).execute [.buffer a] (.ofSizes [1]) ⟨m, notes⟩ = (.ok (), s') := by
    rw [execute_apply, hlocks]
    show ((fill v k).runItems _ (.ofSizes [1]) 1 0).mapError _ _ = _
    rw [mapError_apply, runItems]
    dsimp only
    rw [hbody]
    rfl
  rw [hexecute, contentAt_eq]
  refine ⟨rfl, ?_⟩
  show (a.block.bind s'.arena.get?).map Block.content = _
  rw [ha, Option.bind_some, hb', Option.map_some]
  refine congrArg some (Array.ext ?_ ?_)
  · rw [Block.size_content, hsize', hsize, Array.size_replicate]
  · intro i h₁ h₂
    have hi := hcells i
    rw [Array.size_replicate] at h₂
    have hlt : i < b'.cells.size := by
      rw [Block.size_content] at h₁
      rw [b'.aligned]
      exact Nat.lt_of_lt_of_le h₁ (le_wordAligned _)
    rw [if_pos h₂, Array.getD_eq_getD_getElem?, Array.getElem?_eq_getElem hlt] at hi
    simpa [Block.content] using hi

/-- Filling a buffer is a function of its length. -/
theorem Kernel.functional_fill (v : UInt8) (k : KernelId) : (fill v k).Functional := by
  intro m m' args args' g notes notes' hcheck hgrid h
  obtain rfl : .ofSizes [1] = g := Except.ok.inj hgrid
  -- there is one argument, and it is a buffer of bytes
  obtain ⟨a, rfl, ht⟩ : ∃ a, args = [.buffer a] ∧ a.type = .scalar .uint8 := by
    rw [checkArgs] at hcheck
    split at hcheck
    · cases hcheck
    · rename_i hlen
      obtain ⟨arg, rfl⟩ := List.length_eq_one_iff.mp (Classical.not_not.mp hlen)
      cases arg with
      | scalar x => cases hcheck
      | buffer a =>
        refine ⟨a, rfl, ?_⟩
        by_contra hne
        have hrefused : checkArg (fill v k).name 0 (.buffer (.scalar .uint8) .write) (.buffer a) =
            .error (.typeMismatch (.scalar .uint8) a.type) := if_neg fun he => hne he.symm
        have hcheck' : (checkArg (fill v k).name 0 (.buffer (.scalar .uint8) .write) (.buffer a) >>=
            fun _ => Except.ok ()) = .ok () := hcheck
        rw [hrefused] at hcheck'
        cases hcheck'
  obtain ⟨a', rfl, hreleased⟩ : ∃ a', args' = [.buffer a'] ∧ a'.released = a.released := by
    obtain ⟨arg, rfl, harg⟩ := List.map_eq_singleton_iff.mp h.shape
    cases arg with
    | scalar x => cases harg
    | buffer a' => exact ⟨a', rfl, LaunchArg.buffer.inj harg⟩
  have ht' : a'.type = .scalar .uint8 := (congrArg Allocation.type hreleased).trans ht
  have hlen := congrArg Allocation.len hreleased
  obtain ⟨hout, hcontent⟩ := execute_fill v k notes ht h.left
  obtain ⟨hout', hcontent'⟩ := execute_fill v k notes' ht' h.right
  refine ⟨hout'.trans hout.symm, ?_⟩
  intro _ i t access hp _
  cases i with
  | zero => exact hcontent'.trans (hlen ▸ hcontent.symm)
  | succ i => cases hp

namespace Fleet

variable {ι δ : Type} [DecidableEq ι] [DecidableEq δ] {κ : KernelId → Kernel} {f₀ : Fleet ι δ}
  {rs : List (Request ι δ)} {u : ι} {m : Machine}

/-- The graph of `u` after a history, built anew on a machine: the calls that have added its nodes
are made again, with the buffers that are in its slots in the end. -/
def rebuild (u : ι) (rs : List (Request ι δ)) (f₀ : Fleet ι δ) (m : Machine) :
    List (Except GraphError Nat) × Site :=
  Command.runAll (replay u ((performAll rs f₀).2.graph u).table rs f₀)
    ⟨m, .empty ((performAll rs f₀).2.graph u).name⟩

omit [DecidableEq ι] [DecidableEq δ] in
/-- The machine of a user is sound for others, too. -/
theorem Sound.machine {f : Fleet ι δ} (hf : f.Sound κ) (u : ι) : (f.site u).machine.Sound κ :=
  ⟨hf.system.pool _, hf.programs _⟩

/-- All calls that have added nodes succeed once more, and the nodes are the same. -/
theorem Start.rebuild (h₀ : Start f₀) (hr : ValidAll κ rs f₀) (hm : m.Sound κ)
    (hhosts : m.hosts.contents = (performAll rs f₀).2.hosts.contents) :
    (∀ o ∈ (rebuild u rs f₀ m).1, o = .ok 0) ∧
      Site.Replica κ ((performAll rs f₀).2.graph u).table m ((performAll rs f₀).2.graph u)
        (rebuild u rs f₀ m).2 := by
  have hsound := h₀.sound.performAll hr
  have hw := hsound.system.workspace u
  obtain ⟨name, hgraph⟩ := h₀.graph u
  have hname : ((performAll rs f₀).2.graph u).name = name := by
    rw [(h₀.sound.growsAll hr u).1, hgraph]
    rfl
  refine h₀.sound.replay hr (hgraph ▸ .empty hm hname) hw.table
    (fun slot hs => (HostMemory.has_of_contents hhosts).mpr (hw.bound slot hs))
    ⟨fun _ => id, ?_⟩
  intro slot _
  have htype := congrArg HostBuffer.type (HostMemory.get_of_contents hhosts
    (((performAll rs f₀).2.graph u).table.get slot).host)
  exact htype

/-- Whatever was done with a graph that copies nothing only when it is stale and has functional
kernels only: unless a device fails or runs out of memory, its next run comes to the same end as
the first run of a graph that is built anew, and leaves the same contents in host memory. -/
theorem execute_rebuild (h₀ : Start f₀) (hr : ValidAll κ rs f₀) (hm : m.Sound κ)
    (hhosts : m.hosts.contents = (performAll rs f₀).2.hosts.contents)
    (htarget : m.context.device.target =
      ((performAll rs f₀).2.site u).machine.context.device.target)
    (hlive : ((performAll rs f₀).2.graph u).phase ≠ .disposed)
    (hkind : ∀ n ∈ ((performAll rs f₀).2.graph u).nodes, n.action.kind ≠ .copyIn)
    (hfun : ∀ n ∈ ((performAll rs f₀).2.graph u).nodes, ∀ k args, n.action = .task k args →
      k.Functional)
    (hd : ¬ Graph.Disturbed ((performAll rs f₀).2.site u))
    (hd' : ¬ Graph.Disturbed (rebuild u rs f₀ m).2) :
    (∀ o ∈ (rebuild u rs f₀ m).1, o = .ok 0) ∧
      (Graph.execute (rebuild u rs f₀ m).2).1.map (fun _ => ()) =
        (Graph.execute ((performAll rs f₀).2.site u)).1.map (fun _ => ()) ∧
      (Graph.execute (rebuild u rs f₀ m).2).2.machine.hosts.contents =
        (Graph.execute ((performAll rs f₀).2.site u)).2.machine.hosts.contents := by
  obtain ⟨hbuilt, hreplica⟩ := h₀.rebuild (u := u) hr hm hhosts
  have hsite := (h₀.sound.performAll hr).site u
  have htwins := Site.Replica.twins (s := (performAll rs f₀).2.site u) hreplica hsite hhosts htarget
  exact ⟨hbuilt, Graph.execute_twins htwins hsite hlive hreplica.live hkind hfun hd hd'⟩

/-- A buffer is filled and copied back. The first run cannot copy back; then another buffer takes
its place, and is written. -/
theorem execute_rebuild_exchanged :
    let f₀ := single "g" none
      [.filled (.scalar .uint8) 2 (1 : UInt8), .filled (.scalar .uint8) 3 (2 : UInt8)]
    let rs : List (Request Unit Unit) := [
      .call () (.task "t" (.fill 7 ⟨0⟩) [.buffer ⟨0⟩]), .call () (.streamOut [⟨0⟩]),
      .configure () (fun c _ => c == .download) none, .call () .execute,
      .call () (.rebind ⟨0⟩ ⟨1⟩), .host (.overwrite ⟨1⟩ [5]),
      .configure () (fun _ _ => false) none]
    let m := ((performAll rs f₀).2.site ()).machine
    Start f₀ ∧ ValidAll (.fill 7) rs f₀ ∧ m.Sound (.fill 7) ∧
      (Graph.execute (rebuild () rs f₀ m).2).2.machine.hosts.contents =
        (Graph.execute ((performAll rs f₀).2.site ())).2.machine.hosts.contents ∧
      ((Graph.execute ((performAll rs f₀).2.site ())).2.machine.hosts.get ⟨1⟩).bytes =
        #[7, 7, 7] := by
  intro f₀ rs m
  have h₀ : Start f₀ := start_single
  have hr : ValidAll (.fill 7) rs f₀ := by
    have hmade : f₀.hosts.Has ⟨0⟩ ∧ f₀.hosts.Has ⟨1⟩ := by simp [HostMemory.Has, f₀, single]
    refine h₀.sound.validAll ?_
    simp only [rs, List.forall_mem_cons]
    refine ⟨⟨?_, ?_⟩, ⟨?_, ?_⟩, trivial, ⟨?_, ?_⟩, ⟨?_, ?_⟩, trivial, trivial, ?_⟩
    · simp [Command.buffers, Graph.argBuffers, hmade]
    · rintro name k args ⟨⟩
      rfl
    · simp [Command.buffers, hmade]
    · rintro name k args ⟨⟩
    · simp [Command.buffers]
    · rintro name k args ⟨⟩
    · simp [Command.buffers, hmade]
    · rintro name k args ⟨⟩
    · simp
  have hsound := h₀.sound.performAll hr
  have hm : m.Sound (.fill 7) := hsound.machine ()
  have hreplica := (h₀.rebuild (u := ()) hr hm rfl).2
  have hlive : ((performAll rs f₀).2.graph ()).phase ≠ .disposed := by decide +kernel
  have hkind : ∀ n ∈ ((performAll rs f₀).2.graph ()).nodes, n.action.kind ≠ .copyIn := by
    decide +kernel
  have hfun : ∀ n ∈ ((performAll rs f₀).2.graph ()).nodes, ∀ k args, n.action = .task k args →
      k.Functional := fun n hn k args ha => by
    have hk := hsound.known () n hn
    rw [ha] at hk
    exact hk ▸ Kernel.functional_fill 7 k.id
  have hd : ¬ Graph.Disturbed ((performAll rs f₀).2.site ()) :=
    Graph.not_disturbed (hsound.site ()) (fun _ _ => rfl) rfl
  have hd' : ¬ Graph.Disturbed (rebuild () rs f₀ m).2 :=
    Graph.not_disturbed hreplica.sound (by rw [hreplica.machine]; exact fun _ _ => rfl)
      (by rw [hreplica.machine]; rfl)
  have h := execute_rebuild (u := ()) h₀ hr hm rfl rfl hlive hkind hfun hd hd'
  exact ⟨h₀, hr, hm, h.2.2, by decide +kernel⟩

end Fleet

end Offload
