import Offload.Proofs.Fleet
import Offload.Proofs.Functional
import Offload.Proofs.Ownership

/-!
# Tasks go on fitting their kernels

The arguments of a task are checked once, when the task is added, against the buffers that are in
its slots at that time. A buffer that takes the place of another has the same element type, and
kernels do not change, so what was checked then is still true when the task is launched, and the
device has nothing to complain about.

* `Kernel.Takes` — the arguments of a task are what its kernel takes.
* `Fleet.Reachable.typed` — of every task of every graph, they are.
* `Kernel.Takes.checkArgs` — the device accepts what the kernel is given then.
-/

namespace Offload

/-- The argument of a task is what the parameter stands for. -/
def Param.Takes (w : Workspace) : Param → TaskArg → Prop
  | .scalar t, .scalar v => v.type = t
  | .buffer t _, .slot s => (w.host s).type = t
  | _, _ => False

/-- The arguments of a task are what its kernel takes. -/
structure Kernel.Takes (k : Kernel) (w : Workspace) (args : List TaskArg) : Prop where
  /-- there is one for each parameter -/
  length : args.length = k.params.length
  /-- each is what its parameter stands for -/
  arg : ∀ (i : Nat) p a, k.params[i]? = some p → args[i]? = some a → p.Takes w a

namespace Action

/-- If the node is a task, its arguments are what its kernel takes. -/
def Typed (w : Workspace) : Action → Prop
  | .task k args => k.Takes w args
  | _ => True

/-- A task only depends on the element types of its slots. -/
theorem Typed.of_types {a : Action} {w w' : Workspace} (h : a.Typed w)
    (hw : ∀ s ∈ a.slots, (w'.host s).type = (w.host s).type) : a.Typed w' := by
  cases a with
  | task k args =>
    refine ⟨h.length, ?_⟩
    intro i p arg hp harg
    have htakes := h.arg i p arg hp harg
    cases p with
    | scalar t =>
      cases arg with
      | scalar v => exact htakes
      | slot s => exact htakes
    | buffer t access =>
      cases arg with
      | scalar v => exact htakes
      | slot s => exact (hw s (mem_slots_task.mpr ⟨i, harg⟩)).trans htakes
  | _ => trivial

end Action

/-! ### Building -/

/-- A task that was accepted has arguments that its kernel takes. -/
theorem Site.Adds.typed {s : Site} {c : Command} {a : Action} {t : SlotTable} (h : s.Adds c a t)
    (ht : s.graph.table.Inverse) : a.Typed ⟨s.machine, t⟩ := by
  cases h with
  | task name node k args hcheck =>
    obtain ⟨hlen, hfits⟩ := Graph.checkArgs_inv hcheck
    refine ⟨(Graph.length_bindArgs _ _).trans hlen, ?_⟩
    intro i p arg hp harg
    cases arg with
    | scalar v =>
      have hfit := hfits i p _ hp (Graph.scalar_of_bindArgs harg)
      cases p with
      | scalar t =>
        rw [Graph.checkArg] at hfit
        split at hfit
        · rename_i htype
          exact htype.symm
        · cases hfit
      | buffer t access => cases hfit
    | slot x =>
      obtain ⟨b, hb, hx⟩ := Graph.getElem?_bindArgs harg
      have hfit := hfits i p _ hp hb
      cases p with
      | scalar t => cases hfit
      | buffer t access =>
        -- the slot has the buffer that was checked
        have hinverse : (Graph.bindArgs s.graph.table args).2.Inverse := by
          rw [Graph.snd_bindArgs]
          exact ht.bindAll _
        show (s.machine.hosts.get ((Graph.bindArgs s.graph.table args).2.get x).host).type = t
        rw [hinverse.host_of_slotOf? hx]
        rw [Graph.checkArg] at hfit
        split at hfit
        · cases hfit
        · rename_i htype
          exact (Classical.not_not.mp htype).symm
  | _ => trivial

namespace Fleet

variable {ι δ : Type} {κ : KernelId → Kernel} {f : Fleet ι δ}

/-- The arguments of all tasks are what their kernels take. -/
def Typed (f : Fleet ι δ) : Prop := ∀ u, ∀ n ∈ (f.graph u).nodes, n.action.Typed (f.workspace u)

variable [DecidableEq ι] [DecidableEq δ]

/-- Whatever is asked of a fleet, tasks go on fitting their kernels. -/
theorem Sound.typed_perform {r : Request ι δ} (hf : f.Sound κ) (hr : r.Valid κ f) (ht : f.Typed) :
    (r.perform f).2.Typed := by
  intro v n hn
  have hadvances := hf.advances hr
  have hold : n ∈ (f.graph v).nodes → n.action.Typed ((r.perform f).2.workspace v) := fun h =>
    (ht v n h).of_types fun s hs => hadvances.type v s (((hf.built v).slots s).mpr ⟨n, h, hs⟩)
  cases r with
  | host a => exact hold hn
  | configure d faults capacity => exact hold hn
  | call u c =>
    by_cases hv : v = u
    · subst hv
      rw [Request.perform, graph_setSite_self] at hn
      cases hadds : c.adds with
      | false =>
        rw [(Command.keeps_run_of_not_adds hadds (f.site v)).1] at hn
        exact hold hn
      | true =>
        rcases Command.run_of_adds hadds (f.site v) with ⟨e, hrun⟩ | ⟨name, a, t, hadd, hrun⟩ <;>
          rw [hrun] at hn
        · exact hold hn
        · rcases List.mem_append.mp hn with hn | hn
          · exact hold hn
          · obtain rfl := List.mem_singleton.mp hn
            rw [perform_call hrun, workspace, site_setSite_self]
            exact hadd.typed (hf.site v).workspace.table
    · rw [Request.perform, graph_setSite_ne f hv] at hn
      exact hold hn

theorem Sound.typed_performAll {rs : List (Request ι δ)} (hf : f.Sound κ) (hr : ValidAll κ rs f)
    (ht : f.Typed) : (Fleet.performAll rs f).2.Typed := by
  induction rs generalizing f with
  | nil => exact ht
  | cons r rs ih => exact ih (hf.perform hr.1) hr.2 (hf.typed_perform hr.1 ht)

/-- Whatever was asked of a fleet since the beginning, all tasks fit their kernels. -/
theorem Reachable.typed (h : Reachable κ f) : f.Typed := by
  obtain ⟨f₀, rs, h₀, hr, rfl⟩ := h
  refine h₀.sound.typed_performAll hr ?_
  intro u n hn
  obtain ⟨name, hu⟩ := h₀.graph u
  rw [hu] at hn
  cases hn

end Fleet

/-! ### Launching -/

namespace Kernel

variable {k : Kernel} {w : Workspace} {args : List TaskArg} {given : List LaunchArg}

/-- Arguments that are acceptable one by one are accepted. -/
theorem checkFrom_of_checkArg {name : String} {first : Nat} {ps : List Param}
    {given : List LaunchArg} (h : ∀ (i : Nat) p arg, ps[i]? = some p → given[i]? = some arg →
      checkArg name (first + i) p arg = .ok ()) : checkFrom name first ps given = .ok () := by
  induction ps generalizing first given with
  | nil => rfl
  | cons p ps ih =>
    cases given with
    | nil => rfl
    | cons arg r =>
      have hfirst : checkArg name first p arg = .ok () := h 0 p arg rfl rfl
      rw [checkFrom, hfirst]
      refine ih fun i p' arg' hp harg => ?_
      have := h (i + 1) p' arg' (by simpa using hp) (by simpa using harg)
      rwa [show first + (i + 1) = first + 1 + i by omega] at this

/-- What the kernel of a task is given is accepted. -/
theorem Takes.checkArgs (h : k.Takes w args) (hw : w.Sound)
    (hgiven : args.mapM (Graph.launchArg w.table) = .ok given) : k.checkArgs given = .ok () := by
  rw [Kernel.checkArgs, if_neg (not_not_intro ((mapM_inv hgiven).1.trans h.length))]
  refine checkFrom_of_checkArg fun i p arg hp harg => ?_
  obtain ⟨a, ha, hlaunch⟩ := getElem?_of_mapM hgiven harg
  have htakes := h.arg i p a hp ha
  cases a with
  | scalar v =>
    cases hlaunch
    cases p with
    | scalar t => exact if_pos htakes.symm
    | buffer t access => exact htakes.elim
  | slot s =>
    obtain ⟨room, hroom, rfl⟩ := Workspace.launchArg_slot hlaunch
    cases p with
    | scalar t => exact htakes.elim
    | buffer t access => exact if_pos (((hw.room s room hroom).type.trans htakes).symm)

end Kernel

end Offload
