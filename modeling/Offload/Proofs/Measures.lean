import Offload.Proofs.Launching

/-!
# Iteration spaces before and at launches

An iteration space is looked at twice: together with the parameters when its kernel is compiled, and
together with the arguments at every launch. Both times the answer comes extent by extent, and the
answers go together. A space that was accepted leads to a grid, unless a number is passed that is no
size; one that was not accepted never does.

* `Extent.Measures` — the size that an extent has for given arguments; `Extent.resolve_eq_ok_iff`
  says that this is what is found at a launch.
* `Space.resolve_eq_ok_iff` — a grid has the sizes of the extents, and ones after them.
* `Kernel.validate_decides_resolve` — how the check of a space when its kernel is compiled bears on
  its launches.
-/

namespace Offload

/-! ### Numbers -/

namespace Scalar

/-- An integer is at hand unless it is too large. -/
theorem asInt?_eq_some_iff {v : Scalar} {x : Int} :
    v.asInt? = some x ↔ v.integer? = some x ∧ x < intBound := by
  have hbound : (intBound : Int) = 2 ^ 63 := rfl
  have hsmall : ∀ y : Int, y < 2 ^ 63 → (some y = some x ↔ some y = some x ∧ x < intBound) := by
    rintro y hy
    refine ⟨fun h => ⟨h, ?_⟩, And.left⟩
    rwa [← Option.some.inj h, hbound]
  obtain ⟨type, v⟩ := v
  cases type with
  | bool | float32 | float64 => exact ⟨nofun, fun h => nomatch h.1⟩
  | int8 => exact hsmall _ (Int.lt_trans (Int8.toInt_lt v) (by decide))
  | int16 => exact hsmall _ (Int.lt_trans (Int16.toInt_lt v) (by decide))
  | int32 => exact hsmall _ (Int.lt_trans (Int32.toInt_lt v) (by decide))
  | int64 => exact hsmall _ (Int64.toInt_lt v)
  | uint8 => exact hsmall _ (Int.lt_trans (Int.ofNat_lt.mpr (UInt8.toNat_lt v)) (by decide))
  | uint16 => exact hsmall _ (Int.lt_trans (Int.ofNat_lt.mpr (UInt16.toNat_lt v)) (by decide))
  | uint32 => exact hsmall _ (Int.lt_trans (Int.ofNat_lt.mpr (UInt32.toNat_lt v)) (by decide))
  | uint64 =>
    -- the only type with numbers above the bound
    show (if v.toNat < intBound then some (v.toNat : Int) else none) = some x ↔
      some (v.toNat : Int) = some x ∧ x < intBound
    split
    · exact hsmall _ (by omega)
    · refine ⟨nofun, ?_⟩
      rintro ⟨⟨⟩, h⟩
      omega

/-- Integers are values of integer types. -/
theorem isInt_of_integer? {v : Scalar} {x : Int} (h : v.integer? = some x) :
    v.type.isInt = true := by
  obtain ⟨type, v⟩ := v
  cases type with
  | bool | float32 | float64 => cases h
  | _ => rfl

end Scalar

/-- What is accepted as a single value is declared as one, of the same type. -/
theorem Kernel.type_of_checkArgs {k : Kernel} {given : List LaunchArg} {i : Nat} {v : Scalar}
    (h : k.checkArgs given = .ok ()) (hv : given[i]? = some (.scalar v)) :
    k.params[i]? = some (.scalar v.type) := by
  obtain ⟨hlen, hfits⟩ := checkArgs_inv h
  have hi : i < k.params.length := hlen ▸ (List.getElem?_eq_some_iff.mp hv).1
  have hp := List.getElem?_eq_getElem hi
  have hfit := hfits i _ _ hp hv
  cases hparam : k.params[i] with
  | scalar t =>
    rw [hparam, checkArg] at hfit
    split at hfit
    · rename_i ht
      rw [hp, hparam, ht]
    · cases hfit
  | buffer t access =>
    rw [hparam] at hfit
    cases hfit

/-! ### Extents -/

namespace Extent

/-- The size that an extent has for given arguments. -/
inductive Measures (given : List LaunchArg) : Extent → Nat → Prop where
  /-- a constant -/
  | fixed (n : Nat) : Measures given (.fixed n) n
  /-- the number of elements of a buffer -/
  | length {i : Nat} {a : Allocation} (h : given[i]? = some (.buffer a)) :
      Measures given (.length i) a.len
  /-- a number that is neither negative nor too large -/
  | scalar {i : Nat} {v : Scalar} {n : Nat} (h : given[i]? = some (.scalar v))
      (hv : v.integer? = some (n : Int)) (hn : n < Scalar.intBound) : Measures given (.scalar i) n

variable {k : Kernel} {given : List LaunchArg} {x : Extent} {dim n : Nat}

/-- A launch finds the sizes of its extents. -/
theorem resolve_eq_ok_iff : x.resolve given = .ok n ↔ x.Measures given n := by
  constructor
  case mp =>
    intro h
    cases x with
    | fixed m =>
      cases h
      exact .fixed _
    | length i =>
      rw [resolve] at h
      split at h
      · rename_i a harg
        cases h
        exact .length harg
      · cases h
    | scalar i =>
      rw [resolve] at h
      split at h
      · rename_i v harg
        split at h
        · rename_i hm
          obtain rfl := Except.ok.inj h
          obtain ⟨hv, hlt⟩ := Scalar.asInt?_eq_some_iff.mp hm
          exact .scalar harg hv (Int.ofNat_lt.mp hlt)
        · cases h
        · cases h
      · cases h
  case mpr =>
    rintro (_ | harg | ⟨harg, hv, hn⟩)
    · rfl
    · rw [resolve, harg]
    · have hint := Scalar.asInt?_eq_some_iff.mpr ⟨hv, Int.ofNat_lt.mpr hn⟩
      rw [resolve, harg]
      dsimp only
      rw [hint]

/-- An extent that cannot have the number which is passed for it has no size. -/
theorem Misfits.not_measures {e : ExtentError} (h : x.Misfits given e) : ¬ x.Measures given n := by
  obtain ⟨i, v, rfl, harg, hmisfit⟩ := h
  rintro (_ | _ | ⟨harg', hv, hn⟩)
  rw [harg] at harg'
  cases harg'
  cases hmisfit with
  | negative hx hneg =>
    rw [hv] at hx
    cases hx
    omega
  | large hx hle =>
    rw [hv] at hx
    cases hx
    omega

/-- An extent that does not go with the parameters has no size, whatever is passed for them. -/
theorem not_measures_of_validate {e : SpaceError} (hvalid : x.validate k.params dim = .error e)
    (hcheck : k.checkArgs given = .ok ()) : ¬ x.Measures given n := by
  rintro (_ | ⟨harg⟩ | ⟨harg, hv, -⟩)
  · cases hvalid
  · -- a buffer is passed, so one was declared
    obtain ⟨t, access, hp⟩ := Kernel.param_of_checkArgs hcheck harg
    rw [validate, hp] at hvalid
    cases hvalid
  · rw [validate, Kernel.type_of_checkArgs hcheck harg] at hvalid
    dsimp only at hvalid
    rw [if_pos (Scalar.isInt_of_integer? hv)] at hvalid
    cases hvalid

end Extent

/-! ### Spaces -/

namespace Space

variable {s : Space} {params : List Param} {given : List LaunchArg}

/-- Extents that do not go with the parameters together do not do so one by one. -/
theorem exists_of_validateFrom_error {e : SpaceError} {dim : Nat} {xs : List Extent}
    (h : validateFrom params dim xs = .error e) :
    ∃ x ∈ xs, ∃ d, x.validate params d = .error e := by
  induction xs generalizing dim with
  | nil => cases h
  | cons x r ih =>
    rw [validateFrom] at h
    rcases hx : x.validate params dim with e' | u <;> rw [hx] at h
    · cases h
      exact ⟨x, List.mem_cons_self, dim, hx⟩
    · obtain ⟨y, hy, hbad⟩ := ih h
      exact ⟨y, List.mem_cons_of_mem _ hy, hbad⟩

/-- Where a space does not go with the parameters, though it has some dimensions and not too many,
it has an extent that does not. -/
theorem exists_of_validate_error {e : SpaceError} (h : s.validate params = .error e)
    (hsome : s.dims ≠ []) (hfew : s.dims.length ≤ maxDims) :
    ∃ x ∈ s.dims, ∃ dim, x.validate params dim = .error e := by
  rw [validate, if_neg] at h
  · exact exists_of_validateFrom_error h
  · rintro (hnone | hmany)
    · exact hsome (List.isEmpty_iff.mp hnone)
    · omega

/-- The extents are looked at first, and then their number. -/
theorem resolve_eq (s : Space) (given : List LaunchArg) : s.resolve given =
    match (s.dims.take (maxDims + 1)).mapM (·.resolve given) with
    | .error why => .error why
    | .ok sizes =>
      if maxDims < s.dims.length then .error .tooManyDimensions else .ok (.ofSizes sizes) := by
  rw [resolve]
  rcases h : (s.dims.take (maxDims + 1)).mapM (·.resolve given) with why | sizes <;> rw [h]
  · rfl
  · show (if maxDims < s.dims.length then throw .tooManyDimensions
      else pure (.ofSizes sizes) : Except ExtentError Grid) = _
    split <;> rfl

/-- A grid is found where there are not too many extents and all of them have sizes, which are then
those of the grid. -/
theorem resolve_eq_ok_iff {g : Grid} : s.resolve given = .ok g ↔
    s.dims.length ≤ maxDims ∧
      ∃ sizes, List.Forall₂ (Extent.Measures given) s.dims sizes ∧ .ofSizes sizes = g := by
  have hmeasures : ∀ sizes, List.Forall₂ (Extent.Measures given) s.dims sizes ↔
      s.dims.mapM (·.resolve given) = .ok sizes := by
    intro sizes
    simp only [mapM_eq_ok_iff, Extent.resolve_eq_ok_iff]
  simp only [hmeasures, resolve_eq]
  by_cases hfew : s.dims.length ≤ maxDims
  · rw [List.take_of_length_le (by omega)]
    rcases h : s.dims.mapM (·.resolve given) with why | sizes <;> rw [h]
    · simp
    · simp [hfew, Nat.not_lt.mpr hfew]
  · rcases h : (s.dims.take (maxDims + 1)).mapM (·.resolve given) with why | sizes <;> rw [h]
    · simp [hfew]
    · simp [hfew, Nat.lt_of_not_le hfew]

/-- Where there is a grid, every extent has a size. -/
theorem measures_of_resolve {g : Grid} (h : s.resolve given = .ok g) {x : Extent}
    (hx : x ∈ s.dims) : ∃ n, x.Measures given n := by
  obtain ⟨-, sizes, hsizes, -⟩ := resolve_eq_ok_iff.mp h
  obtain ⟨i, hi, rfl⟩ := List.getElem_of_mem hx
  exact ⟨_, hsizes.get hi (hsizes.length_eq ▸ hi)⟩

end Space

/-- The sizes of a grid are those that it was made from, and ones after them. -/
theorem Grid.sizes_ofSizes {sizes : List Nat} (h : sizes.length ≤ Space.maxDims) :
    (ofSizes sizes).sizes = sizes ++ List.replicate (Space.maxDims - sizes.length) 1 := by
  match sizes, h with
  | [], _ | [_], _ | [_, _], _ | [_, _, _], _ => rfl

namespace Kernel

variable {k : Kernel} {given : List LaunchArg}

/-- **A space is checked when its kernel is compiled, and then launches can rely on it.** The
arguments are accepted for the parameters of the kernel. If the space was accepted for them as well,
there is a grid: it has the size of each extent in order, and ones after them where there are fewer
than three. The only exception is an extent that is the value of an argument which is negative or
greater than the greatest signed number; then there is no grid, and no size of this extent. If the
space was not accepted, though it has one to three dimensions, there is no grid. -/
theorem validate_decides_resolve (hcheck : k.checkArgs given = .ok ()) :
    (k.space.validate k.params = .ok () →
      (∃ g sizes, k.space.resolve given = .ok g ∧
          List.Forall₂ (Extent.Measures given) k.space.dims sizes ∧
          g.sizes = sizes ++ List.replicate (Space.maxDims - sizes.length) 1 ∧
          ∀ x ∈ k.space.dims, ∀ why, ¬ x.Misfits given why) ∨
        ∃ x ∈ k.space.dims, ∃ why, x.Misfits given why ∧ k.space.resolve given = .error why) ∧
      ∀ e, k.space.validate k.params = .error e → k.space.dims ≠ [] →
        k.space.dims.length ≤ Space.maxDims → ∃ why, k.space.resolve given = .error why := by
  constructor
  · intro hvalid
    rcases hresolve : k.space.resolve given with why | g
    · obtain ⟨x, hx, hmisfits⟩ := Space.resolve_error hvalid hcheck hresolve
      exact .inr ⟨x, hx, why, hmisfits, rfl⟩
    · obtain ⟨hfew, sizes, hsizes, rfl⟩ := Space.resolve_eq_ok_iff.mp hresolve
      refine .inl ⟨_, sizes, rfl, hsizes, Grid.sizes_ofSizes (hsizes.length_eq ▸ hfew), ?_⟩
      intro x hx why hmisfits
      obtain ⟨n, hn⟩ := Space.measures_of_resolve hresolve hx
      exact hmisfits.not_measures hn
  · intro e hinvalid hsome hfew
    obtain ⟨x, hx, dim, hbad⟩ := Space.exists_of_validate_error hinvalid hsome hfew
    rcases hresolve : k.space.resolve given with why | g
    · exact ⟨why, rfl⟩
    · obtain ⟨n, hn⟩ := Space.measures_of_resolve hresolve hx
      exact absurd hn (Extent.not_measures_of_validate hbad hcheck)

/-- A buffer of three elements along the first dimension, and a number along the second. The
greatest signed number is a size, and the next number is none. -/
theorem validate_decides_resolve_greatest :
    let k : Kernel := ⟨⟨0⟩, "k", [.scalar .uint64, .buffer (.scalar .float32) .read],
      ⟨[.length 1, .scalar 0]⟩, fun _ => .done⟩
    let given (n : UInt64) : List LaunchArg :=
      [.scalar ⟨.uint64, n⟩, .buffer ⟨.scalar .float32, 3, none⟩]
    (∃ g, k.space.resolve (given 0x7FFFFFFFFFFFFFFF) = .ok g ∧
        g.sizes = [3, 0x7FFFFFFFFFFFFFFF, 1]) ∧
      ∃ x ∈ k.space.dims, ∃ why, x.Misfits (given 0x8000000000000000) why ∧
        k.space.resolve (given 0x8000000000000000) = .error why := by
  intro k given
  have hcheck : ∀ n, k.checkArgs (given n) = .ok () := fun _ => rfl
  have hvalid : k.space.validate k.params = .ok () := rfl
  refine ⟨⟨_, rfl, rfl⟩, ?_⟩
  obtain ⟨g, sizes, hg, -⟩ | hmisfit :=
    (validate_decides_resolve (hcheck 0x8000000000000000)).1 hvalid
  · have herror : k.space.resolve (given 0x8000000000000000) = .error (.notInteger 0) := rfl
    rw [herror] at hg
    cases hg
  · exact hmisfit

end Kernel

end Offload
