import Offload.Proofs.Running
import Offload.Proofs.System

/-!
# Alike but for uploads

Two devices may differ in nothing but how many uploads each has counted. Where no upload fails,
nobody can tell them apart.

* `Device.Alike`, `Workspace.Alike` — the same but for the count of uploads.
* `Step.Agree` — two steps have the same outcome and end in states that are alike again.
* `Workspace.upload_of_not_stale` — an upload of a slot that is not stale does nothing else than
  being counted.
-/

namespace Offload

/-! ### Agreement -/

namespace Step

variable {ε ε' σ α β γ : Type} {R : σ → σ → Prop}

/-- Two outcomes are the same, and the states that go with them are related. -/
def Agree (R : σ → σ → Prop) (x y : Except ε α × σ) : Prop :=
  Matches (fun a b s t => a = b ∧ R s t) (fun e e' s t => e = e' ∧ R s t) x y

namespace Agree

variable {s t : σ}

theorem ok (a : α) (h : R s t) : Agree (ε := ε) R (.ok a, s) (.ok a, t) :=
  Matches.ok ⟨rfl, h⟩

theorem error (e : ε) (h : R s t) : Agree (α := α) R (.error e, s) (.error e, t) :=
  Matches.error ⟨rfl, h⟩

/-- Two steps in a row on either side. -/
theorem bind {m n : Step ε σ α} {f g : α → Step ε σ β} (h : Agree R (m s) (n t))
    (hf : ∀ a s' t', R s' t' → Agree R (f a s') (g a t')) :
    Agree R ((m >>= f) s) ((n >>= g) t) := by
  refine Matches.bind h ?_
  intro a b s' t' _ _ hab
  obtain ⟨rfl, hR⟩ := hab
  exact hf a s' t' hR

/-- A look at the state on either side. -/
theorem get_bind {f g : σ → Step ε σ α} (h : Agree R (f s s) (g t t)) :
    Agree R (((get : Step ε σ σ) >>= f) s) (((get : Step ε σ σ) >>= g) t) := h

/-- The same choice on either side. -/
theorem ite {c : Prop} [Decidable c] {m m' n n' : Step ε σ α} (hm : c → Agree R (m s) (m' t))
    (hn : ¬ c → Agree R (n s) (n' t)) :
    Agree R ((if c then m else n) s) ((if c then m' else n') t) := by
  by_cases h : c
  · rw [if_pos h, if_pos h]
    exact hm h
  · rw [if_neg h, if_neg h]
    exact hn h

theorem lift (h : R s t) (r : Except ε α) : Agree R (Step.lift r s) (Step.lift r t) := by
  rcases r with e | a
  · exact .error e h
  · exact .ok a h

/-- The same steps for each member of a list. -/
theorem each {xs : List γ} {f : γ → Step ε σ Unit} (h : R s t)
    (hf : ∀ x ∈ xs, ∀ s t, R s t → Agree R (f x s) (f x t)) :
    Agree R (each xs f s) (each xs f t) := by
  induction xs generalizing s t with
  | nil => exact .ok () h
  | cons x r ih =>
    exact (hf x List.mem_cons_self s t h).bind fun _ _ _ h' =>
      ih h' fun y hy => hf y (List.mem_cons_of_mem _ hy)

theorem mapError {m n : Step ε σ α} (h : Agree R (m s) (n t)) (f : ε → ε') :
    Agree R (m.mapError f s) (n.mapError f t) :=
  Matches.mapError h fun _ _ _ _ h => ⟨congrArg f h.1, h.2⟩

end Agree

end Step

open Step

/-! ### Devices -/

/-- The two devices are the same, or, where `Q` holds and no upload fails, the same but for the
count of uploads. -/
structure Device.Alike (Q : Prop) (d d' : Device) : Prop where
  /-- they are the same target -/
  target : d'.target = d.target
  /-- they have the same memory -/
  pool : d'.pool = d.pool
  /-- the same calls fail -/
  faults : d'.faults = d.faults
  /-- kernels have reported the same -/
  notes : d'.notes = d.notes
  /-- as many calls were counted -/
  tally : ∀ c : Call, (Q → c ≠ .upload) → d'.count c = d.count c
  /-- no upload fails -/
  quiet : Q → ∀ n, d.faults .upload n = false

namespace Device

variable {Q : Prop} {d d' : Device}

theorem Alike.refl (hq : Q → ∀ n, d.faults .upload n = false) : Alike Q d d :=
  ⟨rfl, rfl, rfl, rfl, fun _ _ => rfl, hq⟩

theorem Alike.counted (h : Alike Q d d') (c : Call) : Alike Q (d.counted c) (d'.counted c) := by
  refine ⟨h.target, h.pool, h.faults, h.notes, ?_, h.quiet⟩
  intro c' hc'
  rw [count_counted, count_counted]
  split
  · rename_i he
    rw [h.tally c fun hQ => he ▸ hc' hQ]
  · exact h.tally c' hc'

/-- Where `Q` holds, one more upload makes no difference. -/
theorem Alike.counted_right (h : Alike Q d d') (hQ : Q) : Alike Q d (d'.counted .upload) := by
  refine ⟨h.target, h.pool, h.faults, h.notes, ?_, h.quiet⟩
  intro c hc
  rw [count_counted, if_neg fun he => hc hQ he.symm]
  exact h.tally c hc

theorem agree_call (h : Alike Q d d') (c : Call) : Agree (Alike Q) (call c d) (call c d') := by
  rw [call_apply, call_apply, h.faults]
  by_cases hc : Q ∧ c = .upload
  · obtain ⟨hQ, rfl⟩ := hc
    rw [h.quiet hQ, h.quiet hQ]
    exact .ok () (h.counted .upload)
  · rw [h.tally c fun hQ he => hc ⟨hQ, he⟩]
    split
    · exact .error _ (h.counted c)
    · exact .ok () (h.counted c)

/-- The same calls fail from now on, but no upload does. -/
theorem Alike.reconfigure (h : Alike Q d d') {faults : Call → Nat → Bool} (capacity : Option Nat)
    (hq : Q → ∀ n, faults .upload n = false) :
    Alike Q (d.reconfigure faults capacity) (d'.reconfigure faults capacity) := by
  refine ⟨h.target, ?_, rfl, h.notes, h.tally, hq⟩
  simp only [Device.reconfigure, h.pool]

/-- The same memory in both devices. -/
theorem Alike.withPool (h : Alike Q d d') (p : Pool) :
    Alike Q { d with pool := p } { d' with pool := p } :=
  ⟨h.target, rfl, h.faults, h.notes, h.tally, h.quiet⟩

theorem agree_allocate (h : Alike Q d d') (t : ElementType) (len : Nat) :
    Agree (Alike Q) (allocate t len d) (allocate t len d') := by
  rw [allocate, onPool, on_apply, on_apply, Step.of, h.pool]
  rcases d.pool.allocate t len with ⟨e | a, p⟩
  · exact .error e (h.withPool p)
  · exact .ok a (h.withPool p)

theorem agree_upload (h : Alike Q d d') (a : Allocation) (src : Bytes) :
    Agree (Alike Q) (upload a src d) (upload a src d') := by
  refine (agree_call h .upload).bind ?_
  intro _ d₁ d₁' h₁
  rw [poke, poke, h₁.pool]
  split
  · rename_i m _
    have hpool : d₁'.withArena m = { d₁' with pool := { d₁.pool with arena := m } } := by
      rw [withArena, h₁.pool]
    rw [hpool]
    exact .ok () (h₁.withPool _)
  · exact .error _ h₁

theorem agree_download (h : Alike Q d d') (a : Allocation) (n : Nat) :
    Agree (Alike Q) (download a n d) (download a n d') := by
  refine (agree_call h .download).bind ?_
  intro _ d₁ d₁' h₁
  refine Agree.get_bind ?_
  rw [h₁.pool]
  exact .lift h₁ _

theorem agree_execute (h : Alike Q d d') (k : Kernel) (args : List LaunchArg) (g : Grid) :
    Agree (Alike Q) (execute k args g d) (execute k args g d') := by
  rw [execute, on_apply, on_apply, h.pool, h.notes]
  rcases k.execute args g ⟨d.pool.arena, d.notes⟩ with ⟨r, s⟩
  have hafter : Alike Q { d.withArena s.arena with notes := s.notes }
      { d'.withArena s.arena with notes := s.notes } := by
    refine ⟨h.target, ?_, h.faults, rfl, h.tally, h.quiet⟩
    simp only [withArena, h.pool]
  rcases r with e | u
  · exact .error e hafter
  · exact .ok u hafter

theorem agree_launch (h : Alike Q d d') (k : Kernel) (args : List LaunchArg) :
    Agree (Alike Q) (launch k args d) (launch k args d') := by
  refine (agree_call h .launch).bind ?_
  intro _ d₁ d₁' h₁
  refine (Agree.lift h₁ (k.checkArgs args)).bind ?_
  intro _ d₂ d₂' h₂
  refine (Agree.lift h₂ (k.grid args)).bind ?_
  intro g d₃ d₃' h₃
  exact (agree_execute h₃ k args g).bind fun _ d₄ d₄' h₄ => .ok g h₄

theorem agree_synchronize (h : Alike Q d d') :
    Agree (Alike Q) (synchronize d) (synchronize d') := agree_call h _

end Device

/-! ### Contexts -/

/-- The two contexts are the same but for the count of uploads. -/
structure Context.Alike (Q : Prop) (c c' : Context) : Prop where
  /-- the devices are alike -/
  device : c.device.Alike Q c'.device
  /-- they have the same programs -/
  programs : c'.programs = c.programs
  /-- the compiler was used in the same way -/
  calls : c'.calls = c.calls
  /-- as many programs were made -/
  issued : c'.issued = c.issued

theorem Context.agree_compile {Q : Prop} {c c' : Context} (h : c.Alike Q c') (k : Kernel) :
    Agree (Alike Q) (compile k c) (compile k c') := by
  have hkey : c'.program? ⟨k.id, c'.device.target⟩ = c.program? ⟨k.id, c.device.target⟩ := by
    rw [program?, program?, h.programs, h.device.target]
  rw [compile_apply, compile_apply, hkey, h.device.target]
  split
  · exact .ok _ h
  · split
    · rw [h.issued]
      exact .ok _ ⟨h.device, by rw [insert, insert, h.programs],
        by rw [insert, insert, h.calls], rfl⟩
    · exact .error _ ⟨h.device, h.programs, by rw [h.calls], h.issued⟩

/-! ### Workspaces -/

namespace Workspace

variable {Q : Prop} {w w' : Workspace}

/-- The two workspaces are the same but for the count of uploads. -/
structure Alike (Q : Prop) (w w' : Workspace) : Prop where
  /-- the contexts are alike -/
  context : w.machine.context.Alike Q w'.machine.context
  /-- they share host memory -/
  hosts : w'.hosts = w.hosts
  /-- they have the same slots -/
  table : w'.table = w.table

namespace Alike

variable (h : Alike Q w w')

include h

theorem host (s : SlotId) : w'.host s = w.host s := by
  rw [Workspace.host, Workspace.host, h.table]
  exact congrArg (HostMemory.get · _) h.hosts

theorem isStale (s : SlotId) : w'.isStale s = w.isStale s := by
  rw [Workspace.isStale, Workspace.isStale, h.host, h.table]

theorem pool : w'.pool = w.pool := h.context.device.pool

theorem sound (hw : w.Sound) : w'.Sound := by
  obtain ⟨⟨m, c⟩, t⟩ := w'
  obtain rfl : m = w.hosts := h.hosts
  obtain rfl : t = w.table := h.table
  have hpool : c.device.pool = w.pool := h.pool
  refine hw.carry (.refl _) (hpool ▸ hw.pool) fun s id b _ hb => ⟨b, ?_, rfl⟩
  rw [hpool]
  exact hb

theorem clean (hw : w.Sound) {s : SlotId} (hc : w.Clean s) : w'.Clean s := by
  obtain ⟨⟨m, c⟩, t⟩ := w'
  obtain rfl : m = w.hosts := h.hosts
  obtain rfl : t = w.table := h.table
  have hpool : c.device.pool = w.pool := h.pool
  refine hc.carry hw (.refl _) ?_
  intro id b _ hb
  rw [hpool]
  exact hb

theorem withDevice {d d' : Device} (hd : d.Alike Q d') :
    Alike Q (w.withDevice d) (w'.withDevice d') :=
  ⟨⟨hd, h.context.programs, h.context.calls, h.context.issued⟩, h.hosts, h.table⟩

theorem setSlot (s : SlotId) (x : Slot) : Alike Q (w.setSlot s x) (w'.setSlot s x) :=
  ⟨h.context, h.hosts, by rw [Workspace.setSlot, Workspace.setSlot, h.table]⟩

theorem setHost (s : SlotId) (b : HostBuffer) : Alike Q (w.setHost s b) (w'.setHost s b) := by
  refine ⟨h.context, ?_, h.table⟩
  simp only [Workspace.setHost, h.hosts, h.table]

end Alike

theorem agree_onContext {α : Type} {m : Step DeviceError Context α} (h : Alike Q w w')
    (hm : Agree (Context.Alike Q) (m w.machine.context) (m w'.machine.context)) :
    Agree (Alike Q) (onContext m w) (onContext m w') :=
  Matches.on (fun w : Workspace => w.machine.context) (fun w : Workspace => w.machine.context) hm
    (fun _ _ _ _ hc => ⟨hc.1, hc.2, h.hosts, h.table⟩)
    fun _ _ _ _ hc => ⟨hc.1, hc.2, h.hosts, h.table⟩

theorem agree_onDevice {α : Type} {m : Step DeviceError Device α} (h : Alike Q w w')
    (hm : Agree (Device.Alike Q) (m w.device) (m w'.device)) :
    Agree (Alike Q) (onDevice m w) (onDevice m w') :=
  agree_onContext h <| Matches.on Context.device Context.device hm
    (fun _ _ _ _ hd => ⟨hd.1, hd.2, h.context.programs, h.context.calls, h.context.issued⟩)
    fun _ _ _ _ hd => ⟨hd.1, hd.2, h.context.programs, h.context.calls, h.context.issued⟩

theorem agree_ensureAllocated (h : Alike Q w w') (s : SlotId) :
    Agree (Alike Q) (ensureAllocated s w) (ensureAllocated s w') := by
  have halloc := Device.agree_allocate h.context.device (w.host s).type (w.host s).len
  rw [ensureAllocated_apply, ensureAllocated_apply, h.table, h.host]
  split
  · exact .ok false h
  · change Agree _ (Device.allocate _ _ w.device) (Device.allocate _ _ w'.device) at halloc
    rcases hd : Device.allocate (w.host s).type (w.host s).len w.device with ⟨r, d⟩
    rcases hd' : Device.allocate (w.host s).type (w.host s).len w'.device with ⟨r', d'⟩
    rw [hd, hd'] at halloc
    cases halloc with
    | ok hd =>
      obtain ⟨rfl, hd⟩ := hd
      exact .ok true ((h.withDevice hd).setSlot s _)
    | error hd =>
      obtain ⟨rfl, hd⟩ := hd
      exact .error _ (h.withDevice hd)

theorem agree_markSynced (h : Alike Q w w') (s : SlotId) (v : Nat) :
    Agree (Alike Q) (markSynced s v w) (markSynced s v w') := by
  have htable : w'.table.get s = w.table.get s := by rw [h.table]
  rw [markSynced, modify_apply, modify_apply, htable]
  exact .ok _ (h.setSlot s _)

theorem agree_upload (h : Alike Q w w') (s : SlotId) :
    Agree (Alike Q) (upload s w) (upload s w') := by
  have hfirst := agree_ensureAllocated h s
  rw [upload_apply, upload_apply]
  rcases he : ensureAllocated s w with ⟨r, w₁⟩
  rcases he' : ensureAllocated s w' with ⟨r', w₁'⟩
  rw [he, he'] at hfirst
  cases hfirst with
  | error h₁ =>
    obtain ⟨rfl, h₁⟩ := h₁
    exact .error _ h₁
  | ok h₁ =>
    obtain ⟨rfl, h₁⟩ := h₁
    dsimp only
    rw [h₁.table, h₁.host]
    rcases (w₁.table.get s).allocation with _ | a
    · exact .error _ h₁
    · have hcopy := Device.agree_upload h₁.context.device a (w₁.host s).bytes
      change Agree _ (Device.upload a _ w₁.device) (Device.upload a _ w₁'.device) at hcopy
      dsimp only
      rcases hd : Device.upload a (w₁.host s).bytes w₁.device with ⟨r, d⟩
      rcases hd' : Device.upload a (w₁.host s).bytes w₁'.device with ⟨r', d'⟩
      rw [hd, hd'] at hcopy
      cases hcopy with
      | error hd =>
        obtain ⟨rfl, hd⟩ := hd
        exact .error _ (h₁.withDevice hd)
      | ok hd =>
        obtain ⟨rfl, hd⟩ := hd
        exact agree_markSynced (h₁.withDevice hd) s _

theorem agree_download (h : Alike Q w w') (s : SlotId) :
    Agree (Alike Q) (download s w) (download s w') := by
  rw [download_apply, download_apply, h.table, h.host]
  rcases (w.table.get s).allocation with _ | a
  · exact .error _ h
  · have hcopy := Device.agree_download h.context.device a (w.host s).touch.bytes.size
    change Agree _ (Device.download a _ w.device) (Device.download a _ w'.device) at hcopy
    dsimp only
    rcases hd : Device.download a (w.host s).touch.bytes.size w.device with ⟨r, d⟩
    rcases hd' : Device.download a (w.host s).touch.bytes.size w'.device with ⟨r', d'⟩
    rw [hd, hd'] at hcopy
    cases hcopy with
    | error hd =>
      obtain ⟨rfl, hd⟩ := hd
      exact .error _ ((h.setHost s _).withDevice hd)
    | ok hd =>
      obtain ⟨rfl, hd⟩ := hd
      exact agree_markSynced ((h.withDevice hd).setHost s _) s _

theorem Alike.drop (h : Alike Q w w') (a : Option Allocation) :
    Alike Q (w.drop a) (w'.drop a) := by
  cases a with
  | none => exact h
  | some a =>
    refine ⟨⟨?_, h.context.programs, h.context.calls, h.context.issued⟩, h.hosts, h.table⟩
    have hd := h.context.device
    have hrelease : w'.device.release a =
        { w'.device with pool := w.device.pool.release a } := by
      rw [Device.release]
      exact congrArg (fun p : Pool => { w'.device with pool := p.release a }) hd.pool
    show Device.Alike Q (w.device.release a) (w'.device.release a)
    rw [hrelease]
    exact hd.withPool _

theorem Alike.withTable (h : Alike Q w w') (t : SlotTable) :
    Alike Q { w with table := t } { w' with table := t } := ⟨h.context, h.hosts, rfl⟩

theorem agree_rebind (h : Alike Q w w') (old new : HostId) :
    Agree (Alike Q) (rebind old new w) (rebind old new w') := by
  have hnew : w'.hosts.get new = w.hosts.get new := congrArg (HostMemory.get · new) h.hosts
  rw [rebind_apply, rebind_apply, h.table]
  split
  · exact .error _ h
  · rename_i s _
    rw [hnew, h.host]
    split
    · exact .error _ h
    · split
      · exact .error _ h
      · refine .ok s ?_
        rw [rebound, rebound, hnew, h.host, h.table]
        split
        · exact h.withTable _
        · exact (h.drop _).withTable _

theorem Alike.release (h : Alike Q w w') (s : SlotId) :
    Alike Q (w.release s) (w'.release s) := by
  rw [Workspace.release, Workspace.release, h.table]
  exact (h.drop _).setSlot s _

theorem Alike.foldl_release (ns : List Nat) (h : Alike Q w w') :
    Alike Q (ns.foldl (fun w i => w.release ⟨i⟩) w) (ns.foldl (fun w i => w.release ⟨i⟩) w') := by
  induction ns generalizing w w' with
  | nil => exact h
  | cons n ns ih => exact ih (h.release ⟨n⟩)

theorem Alike.releaseAll (h : Alike Q w w') : Alike Q w.releaseAll w'.releaseAll := by
  rw [Workspace.releaseAll, Workspace.releaseAll, h.table]
  exact h.foldl_release _

end Workspace

/-! ### Copies that are not needed -/

/-- Writing the beginning of an array of bytes where it stands changes nothing. -/
theorem Bytes.overwrite_extract (b : Bytes) (n : Nat) :
    b.overwrite 0 (b.extract 0 n).toList = b := by
  apply Array.ext
  · exact size_overwrite _ _ _
  · intro i h₁ h₂
    have hget : (b.overwrite 0 (b.extract 0 n).toList).getD i 0 = b.getD i 0 := by
      by_cases hi : i < (b.extract 0 n).toList.length
      · have hmem := getD_overwrite_of_mem b 0 (b.extract 0 n).toList
          (by rw [Array.length_toList, Array.size_extract]; omega) hi
        rw [Nat.zero_add] at hmem
        rw [hmem, Array.getD_eq_getD_getElem?, Array.getElem?_eq_getElem h₂]
        simp
      · exact getD_overwrite_of_not_mem b 0 _ (.inr (by omega))
    rw [Array.getD_eq_getD_getElem?, Array.getD_eq_getD_getElem?, Array.getElem?_eq_getElem h₁,
      Array.getElem?_eq_getElem h₂] at hget
    exact hget

/-- Writing what a block holds already changes nothing. -/
theorem Block.patch_content {b : Block} {xs : Bytes} (h : b.content = xs) :
    b.patch 0 xs.toList = b := by
  have hcells : b.cells.overwrite 0 xs.toList = b.cells := by
    rw [← h]
    exact Bytes.overwrite_extract b.cells b.size
  cases b
  simp only [patch, mk.injEq]
  exact ⟨trivial, hcells⟩

/-- Changing a block to what it is changes nothing. -/
theorem Arena.modify_of_eq {m : Arena} {id : BlockId} {b : Block} {f : Block → Block}
    (hb : m.get? id = some b) (hf : f b = b) : m.modify id f = m := by
  have hblocks : m.blocks.modify id.index (·.map f) = m.blocks := by
    apply Array.ext_getElem?
    intro i
    rw [Array.getElem?_modify]
    split
    · rename_i hi
      rw [get?, hi] at hb
      rcases hx : m.blocks[i]? with _ | x <;> rw [hx] at hb
      · cases hb
      · obtain rfl : x = some b := hb
        rw [Option.map_some, Option.map_some, hf]
    · rfl
  rw [modify, hblocks]

namespace Workspace

variable {Q : Prop} {w w' : Workspace} {s : SlotId}

/-- A slot that is clean and not stale holds what its buffer holds. An upload writes the same
once more. -/
theorem upload_of_not_stale (hw : w.Sound) (hc : w.Clean s) (hs : w.isStale s = false)
    (hq : ∀ n, w.device.faults .upload n = false) :
    upload s w = (.ok (), w.withDevice (w.device.counted .upload)) := by
  rw [isStale, Bool.or_eq_false_iff] at hs
  have halloc : (w.table.get s).isAllocated = true := by simpa using hs.1
  have hsync : (w.table.get s).synced = some (w.host s).version := by simpa using hs.2
  obtain ⟨id, hid⟩ := isAllocated_iff.mp halloc
  obtain ⟨a, ha, haid⟩ := block?_eq_some.mp hid
  obtain ⟨htype, hlen, id', b, hid', hb, hsize⟩ := hw.room s a ha
  obtain rfl : id = id' := Option.some.inj (haid.symm.trans hid')
  have hcontent : b.content = (w.host s).bytes := by
    have hbytes := hc hsync
    rw [deviceBytes_of_lends hid hb] at hbytes
    exact Option.some.inj hbytes
  have hsrc : (w.host s).bytes.size = a.size := by
    rw [HostBuffer.size_bytes, HostBuffer.byteLen, Allocation.size, htype, hlen]
  -- what the upload writes is there already
  have hsame : w.pool.arena.upload a (w.host s).bytes = .ok w.pool.arena := by
    rw [Arena.upload, Arena.checkSize, if_pos hsrc, Device.raw_of_lends hb haid, haid]
    exact congrArg Except.ok (Arena.modify_of_eq hb.1 (Block.patch_content hcontent))
  have hcopy : Device.upload a (w.host s).bytes w.device =
      (.ok (), w.device.counted .upload) := by
    have hcall : Device.call .upload w.device = (.ok (), w.device.counted .upload) := by
      rw [Device.call_apply, hq]
      rfl
    have hpool : (w.device.counted .upload).pool.arena.upload a (w.host s).bytes =
        .ok w.pool.arena := hsame
    rw [Device.upload, bind_of_ok hcall, Device.poke, hpool]
    rfl
  have hnoop : ensureAllocated s w = (.ok false, w) := by
    rw [ensureAllocated_apply, if_pos halloc]
  have hself : { w.table.get s with synced := some (w.host s).version } = w.table.get s := by
    rw [← hsync]
  rw [upload_apply, hnoop]
  dsimp only
  rw [ha]
  dsimp only
  rw [hcopy]
  dsimp only
  rw [markSynced, modify_apply]
  refine congrArg (Prod.mk _) (congrArg (Workspace.mk _) ?_)
  exact (congrArg (w.table.set s) hself).trans (SlotTable.set_get _ _)

/-- Where `Q` holds, such an upload goes unnoticed. -/
theorem upload_of_alike (h : Alike Q w w') (hQ : Q) (hw : w.Sound) (hc : w.Clean s)
    (hs : w.isStale s = false) : ∃ w'', upload s w' = (.ok (), w'') ∧ Alike Q w w'' := by
  have hquiet : ∀ n, w'.device.faults .upload n = false := by
    intro n
    have hfaults := congrFun (congrFun h.context.device.faults .upload) n
    exact hfaults.trans (h.context.device.quiet hQ n)
  refine ⟨_, upload_of_not_stale (h.sound hw) (h.clean hw hc) ((h.isStale s).trans hs) hquiet, ?_⟩
  exact ⟨⟨h.context.device.counted_right hQ, h.context.programs, h.context.calls,
    h.context.issued⟩, h.hosts, h.table⟩

end Workspace

end Offload
