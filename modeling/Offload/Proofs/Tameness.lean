import Offload.Proofs.Filling

/-!
# Bodies that keep to what they were given

A body that asks only for arguments that were passed, and stores only within the bounds of buffers,
does not crash, whatever device memory holds.

* `Body.Tame` — such a body, with the errors that it may report.
* `Device.launch_tame` — a launch of such bodies ends well, or because there is no grid, or with an
  error that one of the bodies reports.
-/

namespace Offload

/-- The body asks for what it was given only, stores within the bounds of buffers only, and reports
no errors but those for which `E` holds. -/
inductive Body.Tame (f : Frame) (E : DeviceError → Prop) : Body → Prop
  /-- nothing more -/
  | done : Tame f E .done
  /-- an error -/
  | fail {e : DeviceError} (h : E e) : Tame f E (.fail e)
  /-- a scalar that was passed -/
  | scalar {i : Nat} {t : ElementType} {next : Except DeviceError t.Value → Body} {v : t.Value}
      (h : f.scalar i t = .ok v) (hnext : Tame f E (next (.ok v))) : Tame f E (.scalar i t next)
  /-- a buffer that was passed, whatever it holds -/
  | view {i : Nat} {t : ElementType} {next : Except DeviceError (View t) → Body} {id : BlockId}
      {len : Nat} (h : f.buffer i t false = .ok (id, len))
      (hnext : ∀ v : View t, v.len = len → Tame f E (next (.ok v))) : Tame f E (.view i t next)
  /-- a buffer that was passed to be written, whatever it holds -/
  | writable {i : Nat} {t : ElementType} {next : Except DeviceError (View t) → Body} {id : BlockId}
      {len : Nat} (h : f.buffer i t true = .ok (id, len))
      (hnext : ∀ v : View t, v.len = len → Tame f E (next (.ok v))) : Tame f E (.writable i t next)
  /-- a place of such a buffer -/
  | store {i : Nat} {t : ElementType} {place : Nat} {v : t.Value}
      {next : Except DeviceError Unit → Body} {id : BlockId} {len : Nat}
      (h : f.buffer i t true = .ok (id, len)) (hplace : place < len)
      (hnext : Tame f E (next (.ok ()))) : Tame f E (.store i t place v next)

/-- Where there is memory for the buffers, such a body does not crash. -/
theorem Body.Tame.run {f : Frame} {E : DeviceError → Prop} {b : Body} (h : b.Tame f E)
    {s : Execution} (hs : f.Fits s.arena) :
    Step.Ends (fun _ _ => True) (fun halt => ∃ e, halt = .error e ∧ E e) (b.run f s) := by
  induction h generalizing s with
  | done => exact .ok trivial
  | fail he => exact .error ⟨_, rfl, he⟩
  | scalar hv _ ih =>
    rw [run_scalar hv]
    exact ih hs
  | view hb _ ih =>
    obtain ⟨b, hget, hroom⟩ := hs _ _ _ _ _ hb
    rw [run_view hb hget hroom]
    exact ih _ rfl hs
  | writable hb _ ih =>
    obtain ⟨b, hget, hroom⟩ := hs _ _ _ _ _ hb
    rw [run_writable hb hget hroom]
    exact ih _ rfl hs
  | store hb hplace _ ih =>
    obtain ⟨b, hget, hroom⟩ := hs _ _ _ _ _ hb
    rw [run_store hb hget hroom hplace]
    exact ih (hs.changes (.modify _ _ _ _))

namespace Kernel

variable {k : Kernel} {args : List LaunchArg} {g : Grid} {E : DeviceError → Prop}

/-- Behind the arguments that were accepted there is memory of the right size. -/
theorem fits_of_ready {m : Arena} {locks : LockTable} (hready : Ready m args)
    (hcheck : k.checkArgs args = .ok ()) (hlocks : LockTable.Covers locks args) :
    Frame.Fits ⟨k.name, k.params, args, locks⟩ m := by
  intro i t write id len hb
  obtain ⟨hlock, access, hp, -⟩ := Frame.buffer_inv hb
  obtain ⟨a, ha, rfl⟩ := Frame.arg_of_buffer hb
  have hid : a.block = some id := (hlocks.block i _ ha).symm.trans hlock
  obtain ⟨c, hc, hsize⟩ := hready a (List.mem_of_getElem? ha)
  have hfit := (checkArgs_inv hcheck).2 i _ _ hp ha
  have htype : t = a.type := by
    rw [checkArg] at hfit
    split at hfit
    · assumption
    · cases hfit
  rw [LaunchArg.content, LaunchArg.block, hid] at hc
  obtain ⟨b, hget, rfl⟩ := Option.map_eq_some_iff.mp hc
  refine ⟨b, hget, ?_⟩
  rw [Block.size_content, Allocation.size, ← htype] at hsize
  rw [b.aligned, Nat.mul_comm, ← hsize]
  exact le_wordAligned _

/-- A value is passed for a parameter that is one. -/
theorem scalar_of_checkArgs {i : Nat} {t : ScalarType} (h : k.checkArgs args = .ok ())
    (hp : k.params[i]? = some (.scalar t)) :
    ∃ v : t.Value, args[i]? = some (.scalar ⟨t, v⟩) := by
  obtain ⟨⟨t', v⟩ | a, harg, hfit⟩ := exists_arg h hp
  · obtain rfl : t = t' := by
      rw [checkArg] at hfit
      split at hfit
      · assumption
      · cases hfit
    exact ⟨v, harg⟩
  · cases hfit

/-- A buffer is passed for a parameter that is one, and found in the block that is held for it. -/
theorem buffer_of_checkArgs {m : Arena} {locks : LockTable} {i : Nat} {t : ElementType}
    {access : Access} (write : Bool) (h : k.checkArgs args = .ok ()) (hready : Ready m args)
    (hlocks : LockTable.Covers locks args) (hp : k.params[i]? = some (.buffer t access))
    (hw : write = true → access.writes = true) :
    ∃ a id, args[i]? = some (.buffer a) ∧
      Frame.buffer ⟨k.name, k.params, args, locks⟩ i t write = .ok (id, a.len) := by
  obtain ⟨v | a, harg, hfit⟩ := exists_arg h hp
  · cases hfit
  · obtain ⟨c, hc, -⟩ := hready a (List.mem_of_getElem? harg)
    obtain ⟨b, hb, -⟩ := Option.map_eq_some_iff.mp hc
    obtain ⟨id, hid, -⟩ := Option.bind_eq_some_iff.mp hb
    exact ⟨a, id, harg, Frame.buffer_eq hp harg ((hlocks.block i _ harg).trans hid) hw⟩

/-- Points in a row whose bodies are tame. -/
theorem runItems_tame {f : Frame} {n first : Nat} {s : Execution} (hs : f.Fits s.arena)
    (h : ∀ i < first + n, (k.body (g.item i)).Tame f E) :
    Step.Ends (fun _ _ => True) (fun halt => ∃ e, halt = .error e ∧ E e)
      (k.runItems f g n first s) := by
  induction n generalizing first s with
  | zero => exact .ok trivial
  | succ n ih =>
    have hbody := (h first (by omega)).run hs
    have hchanges := Body.run_changes f (k.body (g.item first)) s
    rw [runItems]
    dsimp only
    rcases hrun : (k.body (g.item first)).run f s with ⟨halt | u, s'⟩ <;>
      rw [hrun] at hbody hchanges
    · exact .error (hbody.of_error rfl)
    · exact ih (hs.changes hchanges) fun i hi => h i (by omega)

end Kernel

/-- A launch of tame bodies ends well, or because there is no grid, or with an error that one of
the bodies reports. -/
theorem Device.launch_tame {k : Kernel} {args : List LaunchArg} {d : Device}
    {E : DeviceError → Prop} (hq : ∀ n, d.faults .launch n = false)
    (hcheck : k.checkArgs args = .ok ()) (hready : Kernel.Ready d.pool.arena args)
    (hgrid : ∀ e, k.grid args = .error e → E e)
    (hbody : ∀ g locks n, k.grid args = .ok g → LockTable.Covers locks args → n < g.count →
      (k.body (g.item n)).Tame ⟨k.name, k.params, args, locks⟩ E) :
    Step.Ends (fun _ _ => True) E (Device.launch k args d) := by
  rw [launch_apply, call_of_quiet hq, hcheck]
  dsimp only
  rcases hg : k.grid args with e | g
  · exact .error (hgrid e hg)
  · obtain ⟨locks, hlocks⟩ := LockTable.acquire_of_ready hready
    have hcovers := LockTable.covers_acquire hlocks
    have hitems : Step.Ends (fun _ _ => True) (fun halt => ∃ e, halt = .error e ∧ E e)
        (k.runItems ⟨k.name, k.params, args, locks⟩ g g.count 0 ⟨d.pool.arena, d.notes⟩) :=
      Kernel.runItems_tame (Kernel.fits_of_ready hready hcheck hcovers)
        fun n hn => hbody g locks n hg hcovers (by omega)
    have hexecute : (Device.execute k args g (d.counted .launch)).1 =
        (k.runItems ⟨k.name, k.params, args, locks⟩ g g.count 0 ⟨d.pool.arena, d.notes⟩).1.mapError
          (Halt.toError k.name) := by
      rw [execute, Step.on_apply]
      show (k.execute args g ⟨d.pool.arena, d.notes⟩).1 = _
      rw [Kernel.execute_apply, hlocks]
      rfl
    dsimp only
    rw [hexecute]
    rcases hrun : k.runItems ⟨k.name, k.params, args, locks⟩ g g.count 0 ⟨d.pool.arena, d.notes⟩
      with ⟨halt | u, s'⟩ <;> rw [hrun] at hitems
    · obtain ⟨e, rfl, he⟩ := hitems.of_error rfl
      exact .error he
    · exact .ok trivial

end Offload
