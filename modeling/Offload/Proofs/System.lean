import Mathlib.Logic.Function.Basic
import Offload.Proofs.Exchange

/-!
# Many slot tables on many devices

Any number of users share host memory, and some of them share a device. Each has a slot table of
their own. What one of them does, and what is done to a device or to host memory behind their
backs, keeps all their workspaces sound.

* `System` — host memory, the devices, and the tables with the devices that they are on.
* `System.Sound` — every workspace is sound, and no two of them have the same block.
* `System.Advances` — what may happen to the slots of all users in one step.
* `System.Sound.setWorkspace`, `System.Sound.setDevice`, `System.Sound.setHosts` — the three
  kinds of steps.
-/

namespace Offload

/-- Slot tables of several users on several devices. -/
structure System (ι δ : Type) where
  /-- host memory, which all of them share -/
  hosts : HostMemory
  /-- the devices with their programs -/
  context : δ → Context
  /-- the device of a user -/
  home : ι → δ
  /-- the slots of a user -/
  table : ι → SlotTable

/-- The device with other calls that fail and another limit on its memory. -/
def Device.reconfigure (d : Device) (faults : Call → Nat → Bool) (capacity : Option Nat) : Device :=
  { d with faults, pool := { d.pool with arena := { d.pool.arena with capacity } } }

namespace System

variable {ι δ : Type}

/-- What a user works with. -/
def workspace (f : System ι δ) (u : ι) : Workspace :=
  ⟨⟨f.hosts, f.context (f.home u)⟩, f.table u⟩

/-- What holds between the steps. -/
structure Sound (f : System ι δ) : Prop where
  /-- the pools are sound -/
  pool : ∀ d, (f.context d).device.pool.Sound
  /-- every workspace is sound -/
  workspace : ∀ u, (f.workspace u).Sound
  /-- no two users of a device have the same block -/
  apart : ∀ u v s s' id, f.home u = f.home v → (f.table u).block? s = some id →
    (f.table v).block? s' = some id → u = v

/-- What a step from `f` may lead to. A kernel may have written the slots for which `W` holds. -/
structure Advances (W : ι → SlotId → Prop) (f f' : System ι δ) : Prop where
  /-- users stay on their devices -/
  home : f'.home = f.home
  /-- host memory grows -/
  hosts : f.hosts.Extends f'.hosts
  /-- no slot is lost -/
  has : ∀ u s, (f.table u).Has s → (f'.table u).Has s
  /-- a slot keeps its element type -/
  type : ∀ u s, (f.table u).Has s → ((f'.workspace u).host s).type = ((f.workspace u).host s).type
  /-- what is clean stays so unless a kernel wrote it -/
  clean : ∀ u s, ¬ W u s → (f.workspace u).Clean s → (f'.workspace u).Clean s

namespace Advances

variable {W : ι → SlotId → Prop} {f f' f'' : System ι δ}

theorem refl (W : ι → SlotId → Prop) (f : System ι δ) : Advances W f f :=
  ⟨rfl, .refl _, fun _ _ h => h, fun _ _ _ => rfl, fun _ _ _ h => h⟩

theorem trans (h : Advances W f f') (h' : Advances W f' f'') : Advances W f f'' where
  home := h'.home.trans h.home
  hosts := h.hosts.trans h'.hosts
  has u s hs := h'.has u s (h.has u s hs)
  type u s hs := (h'.type u s (h.has u s hs)).trans (h.type u s hs)
  clean u s hs hc := h'.clean u s hs (h.clean u s hs hc)

theorem mono {W' : ι → SlotId → Prop} (h : Advances W f f') (hW : ∀ u s, W u s → W' u s) :
    Advances W' f f' :=
  { h with clean := fun u s hs => h.clean u s (mt (hW u s) hs) }

end Advances

/-! ### A user who does nothing -/

section Untouched

/-- A user keeps their table while others use the machine. Their blocks are still on loan, and
hold the same except for those for which `B` holds. -/
structure Undisturbed (B : BlockId → Prop) (w w' : Workspace) : Prop where
  /-- the table is the same -/
  table : w'.table = w.table
  /-- host memory has grown -/
  hosts : w.hosts.Extends w'.hosts
  /-- the blocks are on loan and have their sizes -/
  lends : ∀ s id b, w.table.block? s = some id → w.pool.Lends id b →
    ∃ b', w'.pool.Lends id b' ∧ b'.size = b.size
  /-- they hold the same -/
  same : ∀ s id b, w.table.block? s = some id → ¬ B id → w.pool.Lends id b → w'.pool.Lends id b

variable {B : BlockId → Prop} {w w' : Workspace}

theorem Undisturbed.sound (h : Undisturbed B w w') (hw : w.Sound) (hp : w'.pool.Sound) :
    w'.Sound := by
  obtain ⟨⟨m, c⟩, t⟩ := w'
  obtain rfl : t = w.table := h.table
  exact hw.carry h.hosts hp h.lends

theorem Undisturbed.type (h : Undisturbed B w w') (hw : w.Sound) {s : SlotId}
    (hs : w.table.Has s) : (w'.host s).type = (w.host s).type := by
  rw [Workspace.host, h.table]
  exact h.hosts.type _ (hw.bound s hs)

theorem Undisturbed.clean (h : Undisturbed B w w') (hw : w.Sound) {s : SlotId}
    (hB : ∀ id, w.table.block? s = some id → ¬ B id) (hc : w.Clean s) : w'.Clean s := by
  obtain ⟨⟨m, c⟩, t⟩ := w'
  obtain rfl : t = w.table := h.table
  exact hc.carry hw h.hosts fun id b hid hb => h.same s id b hid (hB id hid) hb

end Untouched

/-! ### The three kinds of steps -/

section Steps

variable {f : System ι δ} {u : ι}

/-- Another host memory. -/
def setHosts (f : System ι δ) (m : HostMemory) : System ι δ := { f with hosts := m }

/-- What is done to host memory alone. -/
theorem Sound.setHosts {m : HostMemory} (hf : f.Sound) (hm : f.hosts.Extends m) :
    (f.setHosts m).Sound ∧ Advances (fun _ _ => False) f (f.setHosts m) := by
  have hun : ∀ v, Undisturbed (fun _ => False) (f.workspace v) ((f.setHosts m).workspace v) :=
    fun v => ⟨rfl, hm, fun _ _ b _ hb => ⟨b, hb, rfl⟩, fun _ _ _ _ _ hb => hb⟩
  exact ⟨⟨hf.pool, fun v => (hun v).sound (hf.workspace v) (hf.pool _), hf.apart⟩, rfl, hm,
    fun _ _ h => h, fun v s h => (hun v).type (hf.workspace v) h,
    fun v s _ hc => (hun v).clean (hf.workspace v) (fun _ _ => not_false) hc⟩

/-- Users of one device share its pool. -/
theorem pool_of_home {v : ι} (h : f.home v = f.home u) :
    (f.workspace v).pool = (f.workspace u).pool :=
  congrArg (fun d => (f.context d).device.pool) h

/-- A block that a user has now is not one that somebody else has. -/
theorem Sound.not_shared {W : SlotId → Prop} {v : ι} {w' : Workspace} {s s' : SlotId} {id : BlockId}
    (hf : f.Sound) (ha : Workspace.Advances W (f.workspace u) w') (hv : v ≠ u)
    (hd : f.home v = f.home u) (h : w'.table.block? s = some id) :
    (f.table v).block? s' ≠ some id := by
  intro h'
  rcases ha.origin s id h with ⟨s₀, h₀⟩ | hfree
  · exact hv (hf.apart v u s' s₀ id hd h' h₀)
  · obtain ⟨b, hb, -⟩ := (hf.workspace v).lends h'
    rw [pool_of_home hd] at hb
    exact hfree b hb

variable [DecidableEq δ]

/-- The pools are sound after a change of one of them that keeps it so. -/
theorem Sound.pool_update {d : δ} {c : Context} (hf : f.Sound) (hc : c.device.pool.Sound) (e : δ) :
    (Function.update f.context d c e).device.pool.Sound :=
  (Function.forall_update_iff f.context fun _ c => c.device.pool.Sound).mpr
    ⟨hc, fun e _ => hf.pool e⟩ e

/-- Another state of a device. -/
def setDevice (f : System ι δ) (d : δ) (x : Device) : System ι δ :=
  { f with context := Function.update f.context d { f.context d with device := x } }

/-- Users of the device find it in its new state. -/
theorem workspace_setDevice (f : System ι δ) (d : δ) (x : Device) (v : ι) :
    (f.setDevice d x).workspace v =
      ⟨⟨f.hosts, if f.home v = d then { f.context d with device := x } else f.context (f.home v)⟩,
        f.table v⟩ := by
  simp only [workspace, setDevice, Function.update_apply]

/-- What is done to a device alone, with the blocks for which `B` holds changed. -/
theorem Sound.setDevice {d : δ} {x : Device} {B : BlockId → Prop} (hf : f.Sound)
    (hp : x.pool.Sound)
    (hl : ∀ id b, (f.context d).device.pool.Lends id b →
      ∃ b', x.pool.Lends id b' ∧ b'.size = b.size)
    (hs : ∀ id b, ¬ B id → (f.context d).device.pool.Lends id b → x.pool.Lends id b) :
    (f.setDevice d x).Sound ∧
      Advances (fun u s => f.home u = d ∧ ∃ id, (f.table u).block? s = some id ∧ B id) f
        (f.setDevice d x) := by
  have hpool : ∀ v, ((f.setDevice d x).workspace v).pool =
      if f.home v = d then x.pool else (f.workspace v).pool := by
    intro v
    rw [workspace_setDevice]
    split <;> rfl
  have hun : ∀ v, Undisturbed (fun id => f.home v = d ∧ B id) (f.workspace v)
      ((f.setDevice d x).workspace v) := by
    refine fun v => ⟨rfl, .refl _, ?_, ?_⟩
    · intro s id b _ hb
      rw [hpool]
      split
      · rename_i hd
        exact hl id b (hd ▸ hb)
      · exact ⟨b, hb, rfl⟩
    · intro s id b _ hB hb
      rw [hpool]
      split
      · rename_i hd
        exact hs id b (fun h => hB ⟨hd, h⟩) (hd ▸ hb)
      · exact hb
  have hpools : ∀ e, ((f.setDevice d x).context e).device.pool.Sound := hf.pool_update hp
  exact ⟨⟨hpools, fun v => (hun v).sound (hf.workspace v) (hpools _), hf.apart⟩,
    rfl, .refl _, fun _ _ h => h, fun v s h => (hun v).type (hf.workspace v) h,
    fun v s hW hc => (hun v).clean (hf.workspace v) (fun id hid hB => hW ⟨hB.1, id, hid, hB.2⟩) hc⟩

variable [DecidableEq ι]

/-- Put back what a user worked with. -/
def setWorkspace (f : System ι δ) (u : ι) (w : Workspace) : System ι δ where
  hosts := w.hosts
  context := Function.update f.context (f.home u) w.machine.context
  home := f.home
  table := Function.update f.table u w.table

@[simp] theorem workspace_setWorkspace_self (f : System ι δ) (u : ι) (w : Workspace) :
    (f.setWorkspace u w).workspace u = w := by
  simp only [workspace, setWorkspace, Function.update_self]

/-- Others see the machine as it was left. -/
theorem workspace_setWorkspace_ne {v : ι} (h : v ≠ u) (w : Workspace) :
    (f.setWorkspace u w).workspace v =
      ⟨⟨w.hosts, if f.home v = f.home u then w.machine.context else f.context (f.home v)⟩,
        f.table v⟩ := by
  simp only [workspace, setWorkspace, Function.update_of_ne h, Function.update_apply]

/-- A user finds on the machine what the others have left, and their own blocks as they were. -/
theorem Sound.undisturbed_setWorkspace {W : SlotId → Prop} {v : ι} {w' : Workspace} (hf : f.Sound)
    (ha : Workspace.Advances W (f.workspace u) w') (hv : v ≠ u) :
    Undisturbed (fun _ => False) (f.workspace v) ((f.setWorkspace u w').workspace v) := by
  -- the blocks of others are none of the user's
  have hsame : ∀ s id b, (f.table v).block? s = some id → (f.workspace v).pool.Lends id b →
      ((f.setWorkspace u w').workspace v).pool.Lends id b := by
    intro s id b hid hb
    rw [workspace_setWorkspace_ne hv]
    by_cases hd : f.home v = f.home u
    · simp only [Workspace.pool, if_pos hd]
      rw [pool_of_home hd] at hb
      exact ha.others id b (fun s' hs' => hv (hf.apart v u s s' id hd hid hs')) hb
    · simp only [Workspace.pool, if_neg hd]
      exact hb
  refine ⟨?_, ?_, fun s id b hid hb => ⟨b, hsame s id b hid hb, rfl⟩,
    fun s id b hid _ hb => hsame s id b hid hb⟩
  · rw [workspace_setWorkspace_ne hv]
    rfl
  · rw [workspace_setWorkspace_ne hv]
    exact ha.hosts

/-- What a user does with their slots. -/
theorem Sound.setWorkspace {W : SlotId → Prop} {w' : Workspace} (hf : f.Sound) (hw' : w'.Sound)
    (ha : Workspace.Advances W (f.workspace u) w') :
    (f.setWorkspace u w').Sound ∧
      Advances (fun v s => v = u ∧ W s) f (f.setWorkspace u w') := by
  have hself : (f.setWorkspace u w').table u = w'.table := Function.update_self _ _ _
  have htable : ∀ v, v ≠ u → (f.setWorkspace u w').table v = f.table v := fun v hv =>
    Function.update_of_ne hv _ _
  have hsound : ∀ v, ((f.setWorkspace u w').workspace v).Sound := by
    intro v
    by_cases hv : v = u
    · rw [hv, workspace_setWorkspace_self]
      exact hw'
    · exact (hf.undisturbed_setWorkspace ha hv).sound (hf.workspace v)
        (hf.pool_update hw'.pool _)
  -- of two users who share a device, at most one has done something
  have hapart : ∀ v v' s s' id, f.home v = f.home v' →
      ((f.setWorkspace u w').table v).block? s = some id →
      ((f.setWorkspace u w').table v').block? s' = some id → v = v' := by
    intro v v' s s' id hd h h'
    by_cases hv : v = u <;> by_cases hv' : v' = u
    · rw [hv, hv']
    · rw [hv, hself] at h
      rw [htable v' hv'] at h'
      exact absurd h' (hf.not_shared ha hv' (hv ▸ hd).symm h)
    · rw [hv', hself] at h'
      rw [htable v hv] at h
      exact absurd h (hf.not_shared ha hv (hv' ▸ hd) h')
    · rw [htable v hv] at h
      rw [htable v' hv'] at h'
      exact hf.apart v v' s s' id hd h h'
  refine ⟨⟨hf.pool_update hw'.pool, hsound, hapart⟩, rfl, ha.hosts, fun v s hs => ?_,
    fun v s hs => ?_, fun v s hW hc => ?_⟩ <;> by_cases hv : v = u
  · subst hv
    rw [hself]
    exact ha.has s hs
  · rw [htable v hv]
    exact hs
  · subst hv
    rw [workspace_setWorkspace_self]
    exact ha.type s hs
  · exact (hf.undisturbed_setWorkspace ha hv).type (hf.workspace v) hs
  · subst hv
    rw [workspace_setWorkspace_self]
    exact ha.clean s (fun h => hW ⟨rfl, h⟩) hc
  · exact (hf.undisturbed_setWorkspace ha hv).clean (hf.workspace v) (fun _ _ => not_false) hc

end Steps

end System

end Offload
