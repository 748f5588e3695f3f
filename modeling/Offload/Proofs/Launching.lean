import Offload.Proofs.Functional

/-!
# What a launch can fail with

A kernel that was compiled has an iteration space that goes with its parameters. When it is
launched with arguments that go with them as well, and the device does not fail, there are two
things left that can go wrong: an extent that is the value of an argument may be out of range, and
the body may end with an error or crash.

* `Scalar.Misfit` — a value that no extent can have.
* `Space.resolve_error` — only such values keep a grid from being found.
* `Kernel.Raises` — the body does not get done.
* `Device.launch_error` — there is nothing else.
-/

namespace Offload

/-! ### Extents -/

namespace Scalar

/-- The value as an integer, however large; `none` for a value that is no integer. -/
def integer? : Scalar → Option Int
  | ⟨.int8, v⟩ => some v.toInt
  | ⟨.int16, v⟩ => some v.toInt
  | ⟨.int32, v⟩ => some v.toInt
  | ⟨.int64, v⟩ => some v.toInt
  | ⟨.uint8, v⟩ => some v.toNat
  | ⟨.uint16, v⟩ => some v.toNat
  | ⟨.uint32, v⟩ => some v.toNat
  | ⟨.uint64, v⟩ => some v.toNat
  | ⟨.bool, _⟩ | ⟨.float32, _⟩ | ⟨.float64, _⟩ => none

/-- The integer at an index cannot be an extent. The error says why: it is negative, or it is
greater than the greatest signed number. -/
inductive Misfit (v : Scalar) (index : Nat) : ExtentError → Prop where
  /-- a negative number -/
  | negative {x : Int} (hx : v.integer? = some x) (h : x < 0) : Misfit v index (.negative index)
  /-- a number that is too large -/
  | large {x : Int} (hx : v.integer? = some x) (h : intBound ≤ x) :
      Misfit v index (.notInteger index)

/-- A value of an integer type is an integer, which is at hand unless it is too large. -/
theorem integer_cases {v : Scalar} (h : v.type.isInt = true) :
    ∃ x, v.integer? = some x ∧ (v.asInt? = some x ∨ v.asInt? = none ∧ (intBound : Int) ≤ x) := by
  obtain ⟨type, value⟩ := v
  cases type with
  | uint64 =>
    refine ⟨_, rfl, ?_⟩
    by_cases hlt : value.toNat < intBound
    · exact .inl (if_pos hlt)
    · exact .inr ⟨if_neg hlt, Int.ofNat_le.mpr (Nat.le_of_not_lt hlt)⟩
  | bool | float32 | float64 => cases h
  | _ => exact ⟨_, rfl, .inl rfl⟩

end Scalar

/-- The extent is the value of an argument that no extent can have. -/
def Extent.Misfits (given : List LaunchArg) (x : Extent) (e : ExtentError) : Prop :=
  ∃ i v, x = .scalar i ∧ given[i]? = some (.scalar v) ∧ v.Misfit i e

variable {k : Kernel} {given : List LaunchArg}

/-- There is an argument for each parameter. -/
theorem Kernel.exists_arg (h : k.checkArgs given = .ok ()) {i : Nat} {p : Param}
    (hp : k.params[i]? = some p) :
    ∃ arg, given[i]? = some arg ∧ checkArg k.name i p arg = .ok () := by
  obtain ⟨hlen, hfits⟩ := checkArgs_inv h
  have hi : i < given.length := hlen ▸ (List.getElem?_eq_some_iff.mp hp).1
  exact ⟨_, List.getElem?_eq_getElem hi, hfits i p _ hp (List.getElem?_eq_getElem hi)⟩

/-- An extent that goes with the parameters has a value unless it is out of range. -/
theorem Extent.resolve_error {x : Extent} {dim : Nat} {e : ExtentError}
    (hvalid : x.validate k.params dim = .ok ()) (hcheck : k.checkArgs given = .ok ())
    (h : x.resolve given = .error e) : x.Misfits given e := by
  cases x with
  | fixed n => cases h
  | length i =>
    rw [validate] at hvalid
    split at hvalid
    · -- a buffer was declared, so a buffer is given
      rename_i t access hp
      obtain ⟨_ | a, harg, hfit⟩ := Kernel.exists_arg hcheck hp
      · cases hfit
      · rw [resolve, harg] at h
        cases h
    · cases hvalid
    · cases hvalid
  | scalar i =>
    rw [validate] at hvalid
    split at hvalid
    · rename_i t hp
      obtain ⟨v | _, harg, hfit⟩ := Kernel.exists_arg hcheck hp
      · have htype : t = v.type := by
          rw [Kernel.checkArg] at hfit
          split at hfit
          · assumption
          · cases hfit
        have hint : v.type.isInt = true := by
          rw [← htype]
          split at hvalid
          · assumption
          · cases hvalid
        refine ⟨i, v, rfl, harg, ?_⟩
        obtain ⟨x, hx, hsome | ⟨hnone, hlarge⟩⟩ := Scalar.integer_cases hint
        · rw [resolve, harg] at h
          dsimp only at h
          rw [hsome] at h
          cases x with
          | ofNat n => cases h
          | negSucc n =>
            cases h
            exact .negative hx (Int.negSucc_lt_zero n)
        · rw [resolve, harg] at h
          dsimp only at h
          rw [hnone] at h
          cases h
          exact .large hx hlarge
      · cases hfit
    · cases hvalid
    · cases hvalid

namespace Space

/-- Extents that go with the parameters together do so one by one. -/
theorem validate_of_mem {params : List Param} {dim : Nat} {xs : List Extent}
    (h : validateFrom params dim xs = .ok ()) {x : Extent} (hx : x ∈ xs) :
    ∃ d, x.validate params d = .ok () := by
  induction xs generalizing dim with
  | nil => exact absurd hx List.not_mem_nil
  | cons y r ih =>
    rw [validateFrom] at h
    rcases hy : y.validate params dim with e | u <;> rw [hy] at h
    · cases h
    · rcases List.mem_cons.mp hx with rfl | hr
      · exact ⟨dim, hy⟩
      · exact ih h hr

/-- A space that goes with the parameters leads to a grid unless an extent is out of range. In
particular it does not take a length from anything but a buffer, and does not have too many
dimensions. -/
theorem resolve_error {e : ExtentError} (hvalid : k.space.validate k.params = .ok ())
    (hcheck : k.checkArgs given = .ok ()) (h : k.space.resolve given = .error e) :
    ∃ x ∈ k.space.dims, x.Misfits given e := by
  rw [validate] at hvalid
  split at hvalid
  · cases hvalid
  · rename_i hdims
    rw [resolve] at h
    rcases hsizes : (k.space.dims.take (maxDims + 1)).mapM (·.resolve given) with e' | sizes <;>
      rw [hsizes] at h
    · cases h
      obtain ⟨x, hx, he⟩ := exists_of_mapM_error hsizes
      have hmem := List.mem_of_mem_take hx
      obtain ⟨d, hd⟩ := validate_of_mem hvalid hmem
      exact ⟨x, hmem, Extent.resolve_error hd hcheck he⟩
    · -- there are no more dimensions than a grid has
      have hfew : ¬ maxDims < k.space.dims.length := fun hmany => hdims (.inr hmany)
      have hok : (if maxDims < k.space.dims.length then throw .tooManyDimensions
        else pure (Grid.ofSizes sizes) : Except ExtentError Grid) = .error e := h
      rw [if_neg hfew] at hok
      cases hok

end Space

/-! ### Bodies -/

namespace Kernel

/-- The body ends with `h` at a point of the grid of accepted arguments. -/
def Raises (k : Kernel) (given : List LaunchArg) (h : Halt) : Prop :=
  ∃ (g : Grid) (locks : LockTable) (n : Nat) (s : Execution), k.checkArgs given = .ok () ∧
    k.grid given = .ok g ∧ n < g.count ∧
    ((k.body (g.item n)).run ⟨k.name, k.params, given, locks⟩ s).1 = .error h

/-- Where points in a row do not get done, there is one at which the body does not. -/
theorem runItems_error {f : Frame} {g : Grid} {n first : Nat} {s : Execution} {h : Halt}
    (he : (k.runItems f g n first s).1 = .error h) :
    ∃ i s', i < first + n ∧ ((k.body (g.item i)).run f s').1 = .error h := by
  induction n generalizing first s with
  | zero => cases he
  | succ n ih =>
    rw [runItems] at he
    dsimp only at he
    rcases hbody : (k.body (g.item first)).run f s with ⟨h' | u, s'⟩ <;> rw [hbody] at he
    · cases he
      exact ⟨first, s, by omega, by rw [hbody]⟩
    · obtain ⟨i, s'', hi, hrun⟩ := ih he
      exact ⟨i, s'', by omega, hrun⟩

end Kernel

/-- Blocks that are there can be held. -/
theorem LockTable.exists_acquireFrom {m : Arena} {t : LockTable}
    (h : ∀ a, .buffer a ∈ given → ∃ id, a.block = some id ∧ (m.get? id).isSome) :
    ∃ locks, acquireFrom m t given = .ok locks := by
  induction given generalizing t with
  | nil => exact ⟨t, rfl⟩
  | cons arg r ih =>
    have hrest : ∀ a, .buffer a ∈ r → ∃ id, a.block = some id ∧ (m.get? id).isSome := fun a ha =>
      h a (List.mem_cons_of_mem _ ha)
    cases arg with
    | scalar v => exact ih hrest
    | buffer a =>
      obtain ⟨id, hid, hsome⟩ := h a List.mem_cons_self
      rw [acquireFrom, hid]
      dsimp only
      rw [if_pos hsome]
      exact ih hrest

/-- A kernel that is given memory for its buffers gets done unless its body raises something. -/
theorem Kernel.execute_error {g : Grid} {s : Execution} {e : DeviceError}
    (hready : Ready s.arena given) (hcheck : k.checkArgs given = .ok ())
    (hgrid : k.grid given = .ok g) (h : (k.execute given g s).1 = .error e) :
    ∃ halt, k.Raises given halt ∧ e = halt.toError k.name := by
  obtain ⟨locks, hlocks⟩ : ∃ locks, LockTable.acquire s.arena given = .ok locks := by
    refine LockTable.exists_acquireFrom fun a ha => ?_
    obtain ⟨c, hc, -⟩ := hready a ha
    obtain ⟨b, hb, -⟩ := Option.map_eq_some_iff.mp hc
    obtain ⟨id, hid, hget⟩ := Option.bind_eq_some_iff.mp hb
    exact ⟨id, hid, Option.isSome_iff_exists.mpr ⟨b, hget⟩⟩
  rw [execute_apply, hlocks] at h
  dsimp only at h
  rw [Step.mapError_apply] at h
  rcases hrun : k.runItems ⟨k.name, k.params, given, locks⟩ g g.count 0 s with ⟨halt | u, s'⟩ <;>
    rw [hrun] at h
  · cases h
    obtain ⟨i, s'', hi, hbody⟩ := runItems_error (congrArg Prod.fst hrun)
    exact ⟨halt, ⟨g, locks, i, s'', hcheck, hgrid, by omega, hbody⟩, rfl⟩
  · cases h

/-! ### Devices -/

namespace Device

variable {d : Device}

/-- A call that never fails does nothing but be counted. -/
theorem call_of_quiet {c : Call} (hq : ∀ n, d.faults c n = false) :
    call c d = (.ok (), d.counted c) := by
  rw [call_apply, if_neg (by simp [hq])]

/-- Where no launch fails, a launch of a kernel that was compiled with arguments that are accepted
fails only for an extent that is out of range, or with what the body raises. -/
theorem launch_error {e : DeviceError} (hq : ∀ n, d.faults .launch n = false)
    (hvalid : k.space.validate k.params = .ok ()) (hcheck : k.checkArgs given = .ok ())
    (hready : Kernel.Ready d.pool.arena given) (h : (launch k given d).1 = .error e) :
    (∃ x ∈ k.space.dims, ∃ why, x.Misfits given why ∧ e = .launch k.name why.message) ∨
      ∃ halt, k.Raises given halt ∧ e = halt.toError k.name := by
  rw [launch_apply, call_of_quiet hq, hcheck] at h
  dsimp only at h
  rcases hgrid : k.grid given with e' | g <;> rw [hgrid] at h
  · cases h
    rw [Kernel.grid] at hgrid
    rcases hresolve : k.space.resolve given with why | g <;> rw [hresolve] at hgrid
    · cases hgrid
      obtain ⟨x, hx, hmisfit⟩ := Space.resolve_error hvalid hcheck hresolve
      exact .inl ⟨x, hx, why, hmisfit, rfl⟩
    · cases hgrid
  · dsimp only at h
    rw [execute, Step.on_apply] at h
    dsimp only at h
    rcases hrun : k.execute given g ⟨(d.counted .launch).pool.arena, (d.counted .launch).notes⟩ with
      ⟨e' | u, s'⟩ <;> rw [hrun] at h
    · cases h
      exact .inr (Kernel.execute_error (s := ⟨d.pool.arena, d.notes⟩) hready hcheck hgrid
        (congrArg Prod.fst hrun))
    · cases h

end Device

end Offload
