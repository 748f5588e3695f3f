import Offload.Proofs.Building
import Offload.Proofs.Twins

/-!
# Kernels that are functions of what they read

A kernel may look at memory that it was only given to write, and leave parts of it as they are.
What such a kernel produces depends on what happened to be there. A functional kernel produces
contents for all that it writes, and these depend on nothing but the values, the lengths and the
contents that it was given to read.

* `Kernel.SameInput` — the same as far as a functional kernel is concerned.
* `Kernel.Functional` — what the kernel produces from the same input is the same.
* `Workspace.concur_launch` — after a launch, device memory of all arguments is the same.
-/

namespace Offload

open Step

namespace LaunchArg

/-- The argument without its memory. -/
def shape : LaunchArg → LaunchArg
  | .scalar v => .scalar v
  | .buffer a => .buffer a.released

/-- What the memory of the argument holds. -/
def content (m : Arena) (arg : LaunchArg) : Option Bytes :=
  (arg.block.bind m.get?).map Block.content

end LaunchArg

namespace Kernel

variable {k : Kernel} {m m' : Arena} {args args' : List LaunchArg}

/-! ### What is checked -/

theorem checkFrom_shape (name : String) (first : Nat) (ps : List Param) (args : List LaunchArg) :
    checkFrom name first ps (args.map .shape) = checkFrom name first ps args := by
  induction ps generalizing first args with
  | nil => rfl
  | cons p ps ih =>
    cases args with
    | nil => rfl
    | cons arg r =>
      have harg : checkArg name first p arg.shape = checkArg name first p arg := by
        cases p <;> cases arg <;> rfl
      rw [List.map_cons, checkFrom, checkFrom, harg]
      rcases checkArg name first p arg with e | u
      · rfl
      · exact ih (first + 1) r

/-- Arguments are checked by their shapes. -/
theorem checkArgs_shape (k : Kernel) (args : List LaunchArg) :
    k.checkArgs (args.map .shape) = k.checkArgs args := by
  rw [checkArgs, checkArgs, List.length_map, checkFrom_shape]

/-- An extent depends on the shapes of arguments. -/
theorem resolve_shape (args : List LaunchArg) (e : Extent) :
    e.resolve (args.map .shape) = e.resolve args := by
  cases e with
  | fixed n => rfl
  | length i =>
    rw [Extent.resolve, Extent.resolve, List.getElem?_map]
    rcases args[i]? with _ | _ | a <;> rfl
  | scalar i =>
    rw [Extent.resolve, Extent.resolve, List.getElem?_map]
    rcases args[i]? with _ | v | a <;> rfl

/-- The grid depends on the shapes of arguments. -/
theorem grid_shape (k : Kernel) (args : List LaunchArg) :
    k.grid (args.map .shape) = k.grid args := by
  rw [grid, grid, Space.resolve, Space.resolve]
  simp only [resolve_shape]

/-- Arguments that were accepted are acceptable one by one. -/
theorem checkArg_of_checkFrom {name : String} {first i : Nat} {ps : List Param} {p : Param}
    {arg : LaunchArg} (h : checkFrom name first ps args = .ok ()) (hp : ps[i]? = some p)
    (harg : args[i]? = some arg) : checkArg name (first + i) p arg = .ok () := by
  induction ps generalizing first i args with
  | nil => cases hp
  | cons p₀ ps ih =>
    cases args with
    | nil => cases harg
    | cons arg₀ r =>
      rw [checkFrom] at h
      rcases h₀ : checkArg name first p₀ arg₀ with e | u <;> rw [h₀] at h
      · cases h
      · cases i with
        | zero =>
          obtain rfl : p₀ = p := by simpa using hp
          obtain rfl : arg₀ = arg := by simpa using harg
          exact h₀
        | succ i =>
          have := ih h (by simpa using hp) (by simpa using harg)
          rwa [show first + 1 + i = first + (i + 1) by omega] at this

/-- Arguments that were accepted are as many as the parameters, and each fits its parameter. -/
theorem checkArgs_inv (h : k.checkArgs args = .ok ()) : args.length = k.params.length ∧
    ∀ (i : Nat) p arg, k.params[i]? = some p → args[i]? = some arg →
      checkArg k.name i p arg = .ok () := by
  rw [checkArgs] at h
  split at h
  · cases h
  · rename_i hlen
    refine ⟨Classical.not_not.mp hlen, ?_⟩
    intro i p arg hp harg
    have := checkArg_of_checkFrom h hp harg
    rwa [Nat.zero_add] at this

/-- What is accepted as a buffer is declared as one. -/
theorem param_of_checkArgs {i : Nat} {a : Allocation} (h : k.checkArgs args = .ok ())
    (ha : args[i]? = some (.buffer a)) : ∃ t access, k.params[i]? = some (.buffer t access) := by
  obtain ⟨hlen, hfits⟩ := checkArgs_inv h
  have hi : i < k.params.length := hlen ▸ (List.getElem?_eq_some_iff.mp ha).1
  have hfit := hfits i _ _ (List.getElem?_eq_getElem hi) ha
  cases hp : k.params[i] with
  | scalar t =>
    rw [hp] at hfit
    cases hfit
  | buffer t access => exact ⟨t, access, by rw [List.getElem?_eq_getElem hi, hp]⟩

/-! ### What a kernel reads and produces -/

/-- The block of the argument at an index. -/
def blockAt (args : List LaunchArg) (i : Nat) : Option BlockId := args[i]?.bind LaunchArg.block

/-- What the memory of the argument at an index holds. -/
def contentAt (m : Arena) (args : List LaunchArg) (i : Nat) : Option Bytes :=
  args[i]?.bind (LaunchArg.content m)

theorem contentAt_eq (m : Arena) (args : List LaunchArg) (i : Nat) :
    contentAt m args i = ((blockAt args i).bind m.get?).map Block.content := by
  rw [contentAt, blockAt]
  rcases args[i]? with _ | arg <;> rfl

/-- Every buffer has memory of its size. -/
def Ready (m : Arena) (args : List LaunchArg) : Prop :=
  ∀ a, .buffer a ∈ args → ∃ b, (LaunchArg.buffer a).content m = some b ∧ b.size = a.size

/-- Arguments that agree in values, types and lengths, in which of them share their memory, and in
what the memory holds that the kernel reads. -/
structure SameInput (k : Kernel) (m : Arena) (args : List LaunchArg) (m' : Arena)
    (args' : List LaunchArg) : Prop where
  /-- values, types and lengths are the same -/
  shape : args'.map LaunchArg.shape = args.map LaunchArg.shape
  /-- the same arguments share their memory -/
  shared : ∀ i j, blockAt args' i = blockAt args' j ↔ blockAt args i = blockAt args j
  /-- buffers on the one side have memory -/
  left : Ready m args
  /-- so have buffers on the other side -/
  right : Ready m' args'
  /-- what is read is the same -/
  content : ∀ (i : Nat) (t : ElementType) (access : Access),
    k.params[i]? = some (.buffer t access) → access.reads = true →
      contentAt m' args' i = contentAt m args i

/-- From the same input the kernel comes to the same end, and if it gets done, it leaves the same
contents in all that it writes. -/
def Functional (k : Kernel) : Prop :=
  ∀ (m m' : Arena) (args args' : List LaunchArg) (g : Grid) (notes notes' : Array Note),
    k.checkArgs args = .ok () → k.grid args = .ok g → k.SameInput m args m' args' →
    (k.execute args' g ⟨m', notes'⟩).1 = (k.execute args g ⟨m, notes⟩).1 ∧
      ((k.execute args g ⟨m, notes⟩).1 = .ok () →
        ∀ (i : Nat) (t : ElementType) (access : Access),
          k.params[i]? = some (.buffer t access) → access.writes = true →
          contentAt (k.execute args' g ⟨m', notes'⟩).2.arena args' i =
            contentAt (k.execute args g ⟨m, notes⟩).2.arena args i)

end Kernel

/-! ### Launches -/

/-- The slot that a task passes. -/
def TaskArg.slot? : TaskArg → Option SlotId
  | .scalar _ => none
  | .slot s => some s

/-- The slot that a task passes at an index. -/
def slotAt (args : List TaskArg) (i : Nat) : Option SlotId := args[i]?.bind TaskArg.slot?

namespace Workspace

variable {κ : KernelId → Kernel} {w₀ w₀' : Workspace} {D : SlotId → Prop} {s : SlotId}
  {w w' v v' : Workspace} {k : Kernel} {args : List TaskArg} {given given' : List LaunchArg}

theorem launchArg_slot {t : SlotTable} {arg : LaunchArg}
    (h : Graph.launchArg t (.slot s) = .ok arg) :
    ∃ a, (t.get s).allocation = some a ∧ arg = .buffer a := by
  rw [Graph.launchArg, SlotTable.launchArg] at h
  rcases ha : (t.get s).allocation with _ | a <;> rw [ha] at h <;> cases h
  exact ⟨a, rfl, rfl⟩

/-- A kernel is given the blocks of the slots that the task passes. -/
theorem blockAt_given {t : SlotTable} (h : args.mapM (Graph.launchArg t) = .ok given) (i : Nat) :
    Kernel.blockAt given i = (slotAt args i).bind t.block? := by
  rw [Kernel.blockAt, slotAt]
  rcases getElem?_mapM_cases h i with ⟨x, y, hx, hy, hxy⟩ | ⟨hx, hy⟩ <;> rw [hx, hy]
  · cases x with
    | scalar v =>
      cases hxy
      rfl
    | slot s =>
      obtain ⟨a, ha, rfl⟩ := launchArg_slot hxy
      simp only [Option.bind_some, TaskArg.slot?, LaunchArg.block, SlotTable.block?, ha]
  · rfl

/-- What a kernel is given to see is what device memory of the slots holds. -/
theorem contentAt_given (h : args.mapM (Graph.launchArg w.table) = .ok given) (i : Nat) :
    Kernel.contentAt w.pool.arena given i = (slotAt args i).bind w.deviceBytes := by
  rw [Kernel.contentAt_eq, blockAt_given h]
  rcases slotAt args i with _ | s <;> rfl

/-- A slot that is passed has memory. -/
theorem Sound.bytes_of_slotAt (hw : w.Sound) (h : args.mapM (Graph.launchArg w.table) = .ok given)
    {i : Nat} (hi : slotAt args i = some s) : ∃ id b, w.table.block? s = some id ∧
      w.deviceBytes s = some b := by
  rw [slotAt] at hi
  rcases getElem?_mapM_cases h i with ⟨x, y, hx, -, hxy⟩ | ⟨hx, -⟩ <;> rw [hx] at hi
  · cases x with
    | scalar v => cases hi
    | slot s' =>
      obtain rfl : s' = s := Option.some.inj hi
      obtain ⟨a, ha, -⟩ := launchArg_slot hxy
      obtain ⟨-, -, id, b, hid, hb, -⟩ := hw.room s' a ha
      have hblock : w.table.block? s' = some id := block?_eq_some.mpr ⟨a, ha, hid⟩
      exact ⟨id, _, hblock, deviceBytes_of_lends hblock hb⟩
  · cases hi

/-- Arguments share memory where the task passes the same slot. -/
theorem Sound.blockAt_eq_iff (hw : w.Sound)
    (h : args.mapM (Graph.launchArg w.table) = .ok given) (i j : Nat) :
    Kernel.blockAt given i = Kernel.blockAt given j ↔ slotAt args i = slotAt args j := by
  rw [blockAt_given h, blockAt_given h]
  refine ⟨?_, fun he => by rw [he]⟩
  intro he
  have hi := fun s hs => hw.bytes_of_slotAt h (i := i) (s := s) hs
  have hj := fun s hs => hw.bytes_of_slotAt h (i := j) (s := s) hs
  cases hx : slotAt args i with
  | none =>
    cases hy : slotAt args j with
    | none => rfl
    | some s' =>
      obtain ⟨id, -, hid, -⟩ := hj s' hy
      rw [hx, hy, Option.bind_none, Option.bind_some, hid] at he
      cases he
  | some s =>
    obtain ⟨id, -, hid, -⟩ := hi s hx
    rw [hx, Option.bind_some, hid] at he
    cases hy : slotAt args j with
    | none =>
      rw [hy] at he
      cases he
    | some s' =>
      rw [hy, Option.bind_some] at he
      rw [hw.apart s s' id hid he.symm]

/-- A kernel is given memory for its buffers. -/
theorem Sound.ready (hw : w.Sound) (h : args.mapM (Graph.launchArg w.table) = .ok given) :
    Kernel.Ready w.pool.arena given := by
  intro a ha
  obtain ⟨i, hi⟩ := List.mem_iff_getElem?.mp ha
  rcases getElem?_mapM_cases h i with ⟨x, y, -, hy, hxy⟩ | ⟨-, hy⟩ <;> rw [hi] at hy
  · obtain rfl := Option.some.inj hy
    cases x with
    | scalar v => cases hxy
    | slot s =>
      obtain ⟨a', ha', he⟩ := launchArg_slot hxy
      cases he
      obtain ⟨ht, hl, id, b, hid, hb, hsize⟩ := hw.room s a ha'
      refine ⟨b.content, ?_, ?_⟩
      · show (a.block.bind _).map _ = _
        rw [hid, Option.bind_some, hb.1, Option.map_some]
      · rw [Block.size_content, hsize, HostBuffer.byteLen, Allocation.size, ht, hl]
  · cases hy

/-- Values, types and lengths are the same on either side. -/
theorem Twins.shape_given (h : Twins κ w₀ w₀' D w w')
    (hl : args.mapM (Graph.launchArg w.table) = .ok given)
    (hr : args.mapM (Graph.launchArg w'.table) = .ok given') :
    given'.map LaunchArg.shape = given.map LaunchArg.shape := by
  apply List.ext_getElem?
  intro i
  rw [List.getElem?_map, List.getElem?_map]
  rcases getElem?_mapM_cases hl i with ⟨x, y, hx, hy, hxy⟩ | ⟨hx, hy⟩ <;>
    rcases getElem?_mapM_cases hr i with ⟨x', y', hx', hy', hxy'⟩ | ⟨hx', hy'⟩ <;>
    rw [hy, hy']
  · obtain rfl : x = x' := Option.some.inj (hx.symm.trans hx')
    cases x with
    | scalar v =>
      cases hxy
      cases hxy'
      rfl
    | slot s =>
      obtain ⟨a, ha, rfl⟩ := launchArg_slot hxy
      obtain ⟨a', ha', rfl⟩ := launchArg_slot hxy'
      obtain ⟨ht, hlen, -⟩ := h.left.sound.room s a ha
      obtain ⟨ht', hlen', -⟩ := h.right.sound.room s a' ha'
      simp only [Option.map_some, LaunchArg.shape, Allocation.released, ht, ht', hlen, hlen',
        h.host_type, h.host_len]
  · rw [hx] at hx'
    cases hx'
  · rw [hx] at hx'
    cases hx'

/-- The kernel of a task gets the same input on either side, where all that it reads is the same. -/
theorem Twins.sameInput (h : Twins κ w₀ w₀' D w w')
    (hl : args.mapM (Graph.launchArg w.table) = .ok given)
    (hr : args.mapM (Graph.launchArg w'.table) = .ok given')
    (hneeds : ∀ s, (Action.task k args).Needs s → D s) :
    k.SameInput w.pool.arena given w'.pool.arena given' where
  shape := h.shape_given hl hr
  shared i j := by rw [h.right.sound.blockAt_eq_iff hr, h.left.sound.blockAt_eq_iff hl]
  left := h.left.sound.ready hl
  right := h.right.sound.ready hr
  content i t access hp ha := by
    rw [contentAt_given hl, contentAt_given hr]
    rcases hi : slotAt args i with _ | s
    · rfl
    · obtain ⟨arg, harg, hslot⟩ := Option.bind_eq_some_iff.mp hi
      cases arg with
      | scalar v => cases hslot
      | slot s' =>
        obtain rfl : s' = s := Option.some.inj hslot
        obtain ⟨b, hb, hb'⟩ := h.bytes s' (hneeds s' ⟨i, t, access, hp, ha, harg⟩)
        rw [Option.bind_some, Option.bind_some, hb, hb']

/-- What a task does not write stays as it is. -/
theorem Sound.deviceBytes_of_launch {d : Device} {b : Bytes} (hw : w.Sound)
    (hgiven : args.mapM (Graph.launchArg w.table) = .ok given)
    (hd : Device.Changes (k.Writes given) w.device d) (hs : ¬ (Action.task k args).Writes s)
    (hb : w.deviceBytes s = some b) : (w.withDevice d).deviceBytes s = some b := by
  refine hw.deviceBytes_of_keeps hb rfl fun id b hid hb => hd.lends_of_not hb ?_
  intro hW
  obtain ⟨s', hs', hblock⟩ := block_of_writes hgiven hW
  exact hs (hw.apart s s' id hid hblock ▸ hs')

/-- Where a kernel produces the same contents on either side, all slots of its task hold the same
afterwards. -/
theorem Twins.launched {d d' : Device} (h : Twins κ w₀ w₀' D w w')
    (hl : args.mapM (Graph.launchArg w.table) = .ok given)
    (hr : args.mapM (Graph.launchArg w'.table) = .ok given')
    (hneeds : ∀ s, (Action.task k args).Needs s → D s) (hcheck : k.checkArgs given = .ok ())
    (hsl : w₀.Leads κ (w.withDevice d)) (hsr : w₀'.Leads κ (w'.withDevice d'))
    (hdl : Device.Changes (k.Writes given) w.device d)
    (hdr : Device.Changes (k.Writes given') w'.device d')
    (hcontents : ∀ (i : Nat) (t : ElementType) (access : Access),
      k.params[i]? = some (.buffer t access) → access.writes = true →
        Kernel.contentAt d'.pool.arena given' i = Kernel.contentAt d.pool.arena given i) :
    Twins κ w₀ w₀' (fun s => D s ∨ s ∈ (Action.task k args).slots) (w.withDevice d)
      (w'.withDevice d') where
  left := hsl
  right := hsr
  target := h.target
  hosts := h.hosts
  has := h.has
  buffer := h.buffer
  bytes s hs := by
    by_cases hw : (Action.task k args).Writes s
    · obtain ⟨i, t, access, hp, ha, hi⟩ := hw
      have hslot : slotAt args i = some s := by
        rw [slotAt, hi]
        rfl
      have hsame : (slotAt args i).bind (w'.withDevice d').deviceBytes =
          (slotAt args i).bind (w.withDevice d).deviceBytes := by
        rw [← contentAt_given (w := w.withDevice d) hl,
          ← contentAt_given (w := w'.withDevice d') hr]
        exact hcontents i t access hp ha
      obtain ⟨-, b, -, hb⟩ := hsl.sound.bytes_of_slotAt hl hslot
      rw [hslot, Option.bind_some, Option.bind_some] at hsame
      exact ⟨b, hb, hsame.trans hb⟩
    · -- what is passed and not written is read
      have hD : D s := hs.elim id fun hmem => by
        obtain ⟨i, hi⟩ := Action.mem_slots_task.mp hmem
        rcases getElem?_mapM_cases hl i with ⟨x, y, hx, hy, hxy⟩ | ⟨hx, -⟩ <;> rw [hi] at hx
        · obtain rfl := Option.some.inj hx
          obtain ⟨a, -, rfl⟩ := launchArg_slot hxy
          obtain ⟨t, access, hp⟩ := Kernel.param_of_checkArgs hcheck hy
          refine hneeds s ⟨i, t, access, hp, ?_, hi⟩
          cases access with
          | read => rfl
          | write => exact absurd ⟨i, t, _, hp, rfl, hi⟩ hw
          | readWrite => rfl
        · cases hx
      obtain ⟨b, hb, hb'⟩ := h.bytes s hD
      exact ⟨b, h.left.sound.deviceBytes_of_launch hl hdl hw hb,
        h.right.sound.deviceBytes_of_launch hr hdr hw hb'⟩

/-- The launch of a functional kernel ends in the same way on either side, and makes device memory
of all its slots the same. -/
theorem concur_launch (h : Twins κ w₀ w₀' D w w') (hk : k.Functional)
    (hl : args.mapM (Graph.launchArg w.table) = .ok given)
    (hr : args.mapM (Graph.launchArg w'.table) = .ok given')
    (hneeds : ∀ s, (Action.task k args).Needs s → D s) :
    Concur (fun _ v => Struck w₀ v) (fun _ v => Struck w₀' v)
      (fun _ _ v v' => Twins κ w₀ w₀' (fun s => D s ∨ s ∈ (Action.task k args).slots) v v') SameEnd
      (onDevice (Device.launch k given) w) (onDevice (Device.launch k given') w') := by
  have hpl := progress_launch (κ := κ) (W := (Action.task k args).Writes) (fun _ => id) hl
  have hpr := progress_launch (κ := κ) (W := (Action.task k args).Writes) (fun _ => id) hr
  simp only [onDevice_apply, Device.launch_apply] at hpl hpr ⊢
  have hdl := Device.call_changes (k.Writes given) w.device .launch
  have hdr := Device.call_changes (k.Writes given') w'.device .launch
  rcases hcl : Device.call .launch w.device with ⟨rc, d⟩
  rcases hcr : Device.call .launch w'.device with ⟨rc', d'⟩
  rw [hcl] at hpl hdl
  rw [hcr] at hpr hdr
  obtain ⟨hpool, rfl | ⟨⟨reason, rfl⟩, hfails⟩⟩ := Device.call_inv hcl
  · obtain ⟨hpool', rfl | ⟨⟨reason, rfl⟩, hfails⟩⟩ := Device.call_inv hcr
    · have hshape := h.shape_given hl hr
      have hcheck : k.checkArgs given' = k.checkArgs given := by
        rw [← k.checkArgs_shape, hshape, k.checkArgs_shape]
      have hgrid : k.grid given' = k.grid given := by
        rw [← k.grid_shape, hshape, k.grid_shape]
      simp only [hcheck, hgrid] at hpr ⊢
      rcases hc : k.checkArgs given with e | u
      · exact .error ⟨rfl, h.hosts⟩
      · rcases hg : k.grid given with e | g
        · exact .error ⟨rfl, h.hosts⟩
        · simp only [hc, hg] at hpl hpr
          have hinput : k.SameInput d.pool.arena given d'.pool.arena given' := by
            rw [hpool, hpool']
            exact h.sameInput hl hr hneeds
          obtain ⟨hout, hcontents⟩ := hk _ _ _ _ g d.notes d'.notes hc hg hinput
          have hxl := hdl.trans (Device.execute_changes d k given g)
          have hxr := hdr.trans (Device.execute_changes d' k given' g)
          have houtcome : (Device.execute k given' g d').1 = (Device.execute k given g d).1 := hout
          dsimp only
          rw [houtcome]
          rcases hx : (Device.execute k given g d).1 with e | u
          · exact .error ⟨rfl, h.hosts⟩
          · exact .ok (h.launched hl hr hneeds hc (h.left.progress hpl) (h.right.progress hpr) hxl
              hxr (hcontents hx))
    · exact .inr (.inl ⟨_, rfl, h.right.struck hfails⟩)
  · exact .inl ⟨_, rfl, h.left.struck hfails⟩

end Workspace

end Offload
