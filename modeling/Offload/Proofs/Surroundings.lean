import Offload.Proofs.Fleet

/-!
# Devices that others use as well

The graphs of a fleet need not be alone on their devices. Others make allocations of their own
there, copy and launch, compile kernels and forget programs, and reset the device. All that matters
is that they leave the memory of the graphs alone.

* `Fleet.Leaves` — what others may make of a device; `Fleet.leaves_reset`, `Fleet.leaves_clear` are
  two ways in which they do.
* `Incident` — a request, or something that others do.
* `Fleet.Attained` — what both together can lead to; `Fleet.Attained.sound` says that it is sound.
-/

namespace Offload

/-- Something that happens to a fleet. -/
inductive Incident (ι δ : Type) where
  /-- something is asked of it -/
  | request (r : Request ι δ)
  /-- others have used a device, which they leave with its programs like this -/
  | elsewhere (d : δ) (x : Context)

namespace Fleet

variable {ι δ : Type}

/-- Others may make `x` of a device and its programs. -/
structure Leaves (f : Fleet ι δ) (d : δ) (x : Context) : Prop where
  /-- it is the same target -/
  target : x.device.target = (f.context d).device.target
  /-- its pool is sound -/
  pool : x.device.pool.Sound
  /-- the blocks of graphs are on loan as before -/
  lends : ∀ v slot id b, f.home v = d → (f.graph v).table.block? slot = some id →
    (f.context d).device.pool.Lends id b → x.device.pool.Lends id b

section

variable [DecidableEq δ]

/-- Another state of a device and its programs. -/
def setContext (f : Fleet ι δ) (d : δ) (x : Context) : Fleet ι δ :=
  { f with context := Function.update f.context d x }

theorem workspace_setContext (f : Fleet ι δ) (d : δ) (x : Context) (v : ι) :
    (f.setContext d x).workspace v =
      ⟨⟨f.hosts, if f.home v = d then x else f.context (f.home v)⟩, (f.graph v).table⟩ := by
  simp only [workspace, site, Site.workspace, setContext, Function.update_apply]

variable {κ : KernelId → Kernel} {f : Fleet ι δ} {d : δ} {x : Context}

/-- The graphs find their memory as it was. -/
theorem Leaves.undisturbed (h : f.Leaves d x) (v : ι) :
    System.Undisturbed (fun _ => False) (f.workspace v) ((f.setContext d x).workspace v) := by
  have hlends : ∀ slot id b, (f.graph v).table.block? slot = some id →
      (f.workspace v).pool.Lends id b → ((f.setContext d x).workspace v).pool.Lends id b := by
    intro slot id b hid hb
    rw [workspace_setContext]
    by_cases hd : f.home v = d
    · simp only [Workspace.pool, if_pos hd]
      exact h.lends v slot id b hd hid (hd ▸ hb)
    · simp only [Workspace.pool, if_neg hd]
      exact hb
  refine ⟨?_, ?_, fun slot id b hid hb => ⟨b, hlends slot id b hid hb, rfl⟩,
    fun slot id b hid _ hb => hlends slot id b hid hb⟩
  · rw [workspace_setContext]
    rfl
  · rw [workspace_setContext]
    exact .refl _

/-- What others do keeps a fleet sound. -/
theorem Sound.setContext (hf : f.Sound κ) (hx : x.Faithful κ) (h : f.Leaves d x) :
    (f.setContext d x).Sound κ := by
  have hpool : ∀ e, ((f.setContext d x).context e).device.pool.Sound :=
    (Function.forall_update_iff f.context fun _ c => c.device.pool.Sound).mpr
      ⟨h.pool, fun e _ => hf.system.pool e⟩
  constructor
  case system =>
    exact ⟨hpool, fun v => (h.undisturbed v).sound (hf.site v).workspace (hpool _),
      hf.system.apart⟩
  case programs =>
    exact (Function.forall_update_iff f.context fun _ c => c.Faithful κ).mpr
      ⟨hx, fun e _ => hf.programs e⟩
  case known => exact hf.known
  case built => exact hf.built
  case clean =>
    intro v slot hw
    exact (h.undisturbed v).clean (hf.site v).workspace (fun _ _ => not_false) (hf.clean v slot hw)

omit [DecidableEq δ] in
/-- A reset leaves the memory of graphs alone. -/
theorem leaves_reset (hf : f.Sound κ) (d : δ) :
    f.Leaves d { f.context d with device := (Device.reset (f.context d).device).2 } := by
  have htarget : (Device.reset (f.context d).device).2.target = (f.context d).device.target := by
    have hcall := Device.call_changes (fun _ => False) (f.context d).device .reset
    rw [Device.reset, Step.bind_apply]
    rcases hc : Device.call .reset (f.context d).device with ⟨e | u, d'⟩ <;> rw [hc] at hcall <;>
      exact hcall.target
  refine ⟨htarget, ?_, fun v slot id b _ _ hb => ?_⟩ <;>
    rcases System.Operation.reset_inv (f.context d).device with h | h <;> dsimp only <;> rw [h]
  · exact Pool.trim_sound _
  · exact hf.system.pool d
  · exact (Pool.trim_keeps _).lends id b hb
  · exact hb

omit [DecidableEq δ] in
/-- Programs may be forgotten. -/
theorem leaves_clear (hf : f.Sound κ) (d : δ) :
    f.Leaves d (f.context d).clear ∧ (f.context d).clear.Faithful κ :=
  ⟨⟨rfl, hf.system.pool d, fun _ _ _ _ _ _ hb => hb⟩,
    (Context.Faithful.empty κ (f.context d).device).of_programs rfl⟩

end

end Fleet

/-! ### What a fleet goes through -/

namespace Incident

variable {ι δ : Type} [DecidableEq ι] [DecidableEq δ]

/-- What becomes of a fleet. -/
def happen : Incident ι δ → Fleet ι δ → Fleet ι δ
  | request r, f => (r.perform f).2
  | elsewhere d x, f => f.setContext d x

/-- Requests are valid, and others leave the memory of graphs alone. -/
def Valid (κ : KernelId → Kernel) (f : Fleet ι δ) : Incident ι δ → Prop
  | request r => r.Valid κ f
  | elsewhere d x => x.Faithful κ ∧ f.Leaves d x

end Incident

namespace Fleet

variable {ι δ : Type} [DecidableEq ι] [DecidableEq δ] {κ : KernelId → Kernel} {f f' : Fleet ι δ}

/-- `f'` is what `f` may have become, where every incident satisfies `P` when its turn comes. -/
inductive Becomes (κ : KernelId → Kernel) (P : Fleet ι δ → Incident ι δ → Prop) (f : Fleet ι δ) :
    Fleet ι δ → Prop where
  /-- nothing has happened -/
  | refl : Becomes κ P f f
  /-- one more thing has happened -/
  | step {f' : Fleet ι δ} (h : Becomes κ P f f') (i : Incident ι δ) (hi : i.Valid κ f')
    (hP : P f' i) : Becomes κ P f (i.happen f')

/-- What can have become of new graphs. -/
def Attained (κ : KernelId → Kernel) (f : Fleet ι δ) : Prop :=
  ∃ f₀, Start f₀ ∧ Becomes κ (fun _ _ => True) f₀ f

theorem Sound.happen {i : Incident ι δ} (hf : f.Sound κ) (hi : i.Valid κ f) :
    (i.happen f).Sound κ := by
  cases i with
  | request r => exact hf.perform hi
  | elsewhere d x => exact hf.setContext hi.1 hi.2

theorem Becomes.sound {P : Fleet ι δ → Incident ι δ → Prop} (h : Becomes κ P f f')
    (hf : f.Sound κ) : f'.Sound κ := by
  induction h with
  | refl => exact hf
  | step _ i hi _ ih => exact ih.happen hi

/-- Whatever has happened since the beginning, a fleet is sound. -/
theorem Attained.sound (h : Attained κ f) : f.Sound κ := by
  obtain ⟨f₀, h₀, hf⟩ := h
  exact hf.sound h₀.sound

/-- What requests alone lead to can be attained. -/
theorem Becomes.performAll {rs : List (Request ι δ)} {f₀ : Fleet ι δ}
    (h : Becomes κ (fun _ _ => True) f₀ f) (hrs : ValidAll κ rs f) :
    Becomes κ (fun _ _ => True) f₀ (performAll rs f).2 := by
  induction rs generalizing f with
  | nil => exact h
  | cons r rs ih => exact ih (h.step (.request r) hrs.1 trivial) hrs.2

theorem Reachable.attained (h : Reachable κ f) : Attained κ f := by
  obtain ⟨f₀, rs, h₀, hrs, rfl⟩ := h
  exact ⟨f₀, h₀, Becomes.refl.performAll hrs⟩

end Fleet

end Offload
