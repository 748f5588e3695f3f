import Offload.Proofs.Delivery
import Offload.Proofs.NoTrace

/-!
# Graphs with one kernel

A plan is a graph that copies some buffers to the device, launches one kernel and copies the result
back, or leaves it there. It is built on a machine in good order; then every run gets done, and
leaves what the kernel produces from the buffers that were copied.

* `Site.Draft` — a graph under construction; adding a node keeps it in order.
* `Plan.build_ok` — a plan that suits the machine can be built, and stands on it.
* `Plan.Feeds` — what the kernel of a plan is given.
* `Plan.Stands.execute` — what a run does.
* `Plan.Rests` — the graph of a plan between its calls, each of which leaves it so.
-/

namespace Offload

open Step

/-! ### Machines -/

/-- What buffers take up together. -/
def HostMemory.sizes (m : HostMemory) (buffers : List HostId) : Nat :=
  (buffers.map fun h => (m.get h).byteLen).sum

/-- A machine in good order. Its device is the host, does not fail, and has memory for so many bytes
more. -/
structure Machine.Fit (κ : KernelId → Kernel) (m : Machine) (need : Nat) : Prop
    extends m.Sound κ where
  /-- the device is the host -/
  target : m.context.device.target = .cpu
  /-- no call of the device fails -/
  quiet : ∀ c n, m.context.device.faults c n = false
  /-- there is memory -/
  room : ∃ limit keep others, m.context.device.pool.Balanced limit keep others ∧
    ∀ c, limit = some c → m.context.device.pool.arena.total others + need ≤ c

/-- A machine with a new device. -/
theorem Machine.fit_cpu {κ : KernelId → Kernel} {hosts : HostMemory} {limit : Option Nat}
    {keep need : Nat} (h : ∀ c, limit = some c → need ≤ c) :
    Machine.Fit κ ⟨hosts, .ofDevice (.cpu limit keep)⟩ need where
  pool := .empty limit keep
  programs := .empty κ _
  target := rfl
  quiet _ _ := rfl
  room := by
    refine ⟨limit, keep, [], .empty limit keep, fun c hc => ?_⟩
    rw [show Arena.total _ [] = 0 from rfl, Nat.zero_add]
    exact h c hc

/-! ### Graphs under construction -/

/-- A graph under construction on `m`, for buffers of a list. Nothing was done with it yet. -/
structure Site.Draft (κ : KernelId → Kernel) (m : Machine) (buffers : List HostId) (s : Site) :
    Prop where
  /-- the machine is as it was -/
  machine : s.machine = m
  /-- the graph was not disposed of -/
  live : s.graph.phase ≠ .disposed
  /-- it was not run -/
  runs : s.graph.runs = 0
  /-- it is in order -/
  sound : s.Sound κ
  /-- tasks fit their kernels -/
  typed : ∀ n ∈ s.graph.nodes, n.action.Typed s.workspace
  /-- no slot has memory -/
  owned : s.graph.table.owned = []
  /-- none claims to agree with its buffer -/
  clean : ∀ slot, s.workspace.Clean slot
  /-- the buffers are from the list -/
  hosts : ∀ slot, s.graph.table.Has slot → (s.graph.table.get slot).host ∈ buffers

namespace Site.Draft

variable {κ : KernelId → Kernel} {m : Machine} {buffers : List HostId} {s : Site} {c : Command}
  {a : Action} {t : SlotTable}

/-- A new graph. -/
theorem empty (hm : m.Sound κ) (name : String) : Draft κ m buffers ⟨m, .empty name⟩ where
  machine := rfl
  live := nofun
  runs := rfl
  sound := hm.site name
  typed := nofun
  owned := rfl
  clean _ := Workspace.clean_of_not_has (Nat.not_lt_zero _)
  hosts _ h := absurd h (Nat.not_lt_zero _)

/-- One more node. -/
theorem add (h : Draft κ m buffers s) (hadd : s.Adds c a t) (hc : c.Valid κ m.hosts)
    (hb : ∀ b ∈ c.buffers, b ∈ buffers) (name : String) :
    Draft κ m buffers ⟨m, { s.graph with table := t }.push name a⟩ := by
  have hs := h.sound
  obtain ⟨machine, g⟩ := s
  obtain rfl : machine = m := h.machine
  have hknown := hadd.known hc
  have hbuilt := hadd.built hs.workspace.table hs.built name
  have htyped := hadd.typed hs.workspace.table
  obtain ⟨bs, hbs, rfl⟩ := hadd.exists_bindAll
  have hbind : Workspace.Sound ⟨machine, (g.table.bindAll bs).2⟩ ∧
      Workspace.Advances (fun _ => False) ⟨machine, g.table⟩ ⟨machine, (g.table.bindAll bs).2⟩ :=
    hs.workspace.bindAll fun b hb => hc.made b (hbs b hb)
  refine ⟨rfl, ?_, h.runs, (Command.advances_push (W := fun _ => False) hs hbind hknown hbuilt).1,
    ?_, (SlotTable.owned_bindAll _ _).trans h.owned,
    fun slot => hbind.2.clean slot not_false (h.clean slot),
    SlotTable.forall_host_bindAll h.hosts fun b h => hb b (hbs b h)⟩
  · rw [Graph.push]
    split
    · exact Phase.noConfusion
    · exact h.live
  · intro n hn
    rcases List.mem_append.mp hn with hn | hn
    · exact (h.typed n hn).of_types fun slot hslot =>
        hbind.2.type slot ((hs.built.slots slot).mpr ⟨n, hn, hslot⟩)
    · obtain rfl := List.mem_singleton.mp hn
      exact htyped

/-- On a machine that has memory for the buffers, the graph can be run. -/
theorem fit (h : Draft κ m buffers s) (hm : m.Fit κ (m.hosts.sizes buffers)) : s.Fit κ := by
  obtain ⟨machine, g⟩ := s
  obtain rfl : machine = m := h.machine
  obtain ⟨limit, keep, others, hbooks, hroom⟩ := hm.room
  refine ⟨⟨h.sound, h.typed, hm.target, hm.quiet⟩, limit, keep, others, ?_, fun c hc => ?_⟩
  · rw [show (Site.workspace ⟨machine, g⟩).table.owned = [] from h.owned]
    exact hbooks
  · exact Nat.le_trans
      (Nat.add_le_add_left (Workspace.demand_le h.sound.workspace.table h.hosts) _) (hroom c hc)

end Site.Draft

/-! ### Arguments -/

namespace SlotTable

variable {t : SlotTable} {hs : List HostId} {h : HostId} {s : SlotId}

/-- A buffer gets one of the slots that are returned. -/
theorem exists_mem_bindAll (hh : h ∈ hs) :
    ∃ s ∈ (t.bindAll hs).1, (t.bindAll hs).2.slotOf? h = some s := by
  obtain ⟨i, hi⟩ := List.mem_iff_getElem?.mp hh
  obtain ⟨s, hs, hslot⟩ := getElem?_bindAll (t := t) hi
  exact ⟨s, List.mem_of_getElem? hs, hslot⟩

/-- A slot that is returned is that of one of the buffers. -/
theorem exists_of_mem_bindAll (hs' : s ∈ (t.bindAll hs).1) :
    ∃ h ∈ hs, (t.bindAll hs).2.slotOf? h = some s := by
  obtain ⟨i, hi⟩ := List.mem_iff_getElem?.mp hs'
  have hlt : i < hs.length := by
    rw [← length_bindAll hs t]
    exact (List.getElem?_eq_some_iff.mp hi).1
  obtain ⟨s', hs', hslot⟩ := getElem?_bindAll (t := t) (List.getElem?_eq_getElem hlt)
  obtain rfl : s = s' := Option.some.inj (hi.symm.trans hs')
  exact ⟨_, List.getElem_mem hlt, hslot⟩

end SlotTable

namespace Graph

/-- Every argument of a task is passed on at its index. -/
theorem getElem?_fst_bindArgs {t : SlotTable} {args : List Arg} {i : Nat} {a : Arg}
    (hi : args[i]? = some a) :
    (∃ v, a = .scalar v ∧ (bindArgs t args).1[i]? = some (.scalar v)) ∨
      ∃ h s, a = .buffer h ∧ (bindArgs t args).1[i]? = some (.slot s) ∧
        (bindArgs t args).2.slotOf? h = some s := by
  have hlt : i < (bindArgs t args).1.length := by
    rw [length_bindArgs]
    exact (List.getElem?_eq_some_iff.mp hi).1
  obtain ⟨b, hb⟩ : ∃ b, (bindArgs t args).1[i]? = some b := ⟨_, List.getElem?_eq_getElem hlt⟩
  cases b with
  | scalar v =>
    exact .inl ⟨v, Option.some.inj (hi.symm.trans (scalar_of_bindArgs hb)), hb⟩
  | slot s =>
    obtain ⟨h, hh, hs⟩ := getElem?_bindArgs hb
    exact .inr ⟨h, s, Option.some.inj (hi.symm.trans hh), hb, hs⟩

/-- So is a single value. -/
theorem scalar_fst_bindArgs {t : SlotTable} {args : List Arg} {i : Nat} {v : Scalar}
    (hi : args[i]? = some (.scalar v)) : (bindArgs t args).1[i]? = some (.scalar v) := by
  obtain ⟨v', he, hb⟩ | ⟨_, _, he, -⟩ := getElem?_fst_bindArgs (t := t) hi <;> cases he
  exact hb

/-- In the place of a buffer there is its slot. -/
theorem slot_fst_bindArgs {t : SlotTable} {args : List Arg} {i : Nat} {h : HostId}
    (hi : args[i]? = some (.buffer h)) : ∃ s, (bindArgs t args).1[i]? = some (.slot s) ∧
      (bindArgs t args).2.slotOf? h = some s := by
  obtain ⟨_, he, -⟩ | ⟨h', s, he, hb, hs⟩ := getElem?_fst_bindArgs (t := t) hi <;> cases he
  exact ⟨s, hb, hs⟩

end Graph

/-- An argument is what the parameter stands for, and a buffer that is read is among the inputs. -/
def Param.Suits (m : HostMemory) (inputs : List HostId) : Param → Arg → Prop
  | .scalar t, .scalar v => v.type = t
  | .buffer t access, .buffer h => (m.get h).type = t ∧ (access.reads = true → h ∈ inputs)
  | _, _ => False

/-- Such an argument is accepted once the inputs have slots. -/
theorem Param.Suits.checkArg {s : Site} {inputs : List HostId} {p : Param} {a : Arg}
    (h : p.Suits s.machine.hosts inputs a)
    (hslots : ∀ h ∈ inputs, (s.graph.table.slotOf? h).isSome) (node : String) (i : Nat) :
    Graph.checkArg s node i p a = .ok () := by
  cases p with
  | scalar t =>
    cases a with
    | scalar v => exact if_pos h.symm
    | buffer b => exact h.elim
  | buffer t access =>
    cases a with
    | scalar v => exact h.elim
    | buffer b =>
      rw [Graph.checkArg, if_neg (not_not_intro h.1.symm), if_neg]
      rw [Bool.and_eq_true, not_and, Bool.not_eq_true, Option.isNone_eq_false_iff]
      exact fun hr => hslots b (h.2 hr)

/-- So are all arguments together. -/
theorem Graph.checkArgs_of_suits {s : Site} {inputs : List HostId} {k : Kernel} {args : List Arg}
    (h : List.Forall₂ (Param.Suits s.machine.hosts inputs) k.params args)
    (hslots : ∀ h ∈ inputs, (s.graph.table.slotOf? h).isSome) (node : String) :
    checkArgs s node k args = .ok () := by
  rw [checkArgs, if_neg (not_not_intro h.length_eq.symm)]
  generalize 0 = i
  generalize k.params = ps at h ⊢
  induction h generalizing i with
  | nil => rfl
  | cons hp hr ih =>
    rw [checkArgsFrom, hp.checkArg hslots]
    exact ih (i + 1)

/-! ### Calls -/

namespace Site.Draft

variable {κ : KernelId → Kernel} {m : Machine} {buffers inputs : List HostId} {s : Site}

/-- Copies to the device. -/
theorem copies (h : Draft κ m buffers s) (always : Bool) (hmade : ∀ b ∈ inputs, m.hosts.Has b)
    (hb : ∀ b ∈ inputs, b ∈ buffers) :
    ∃ s' n, (if always then Graph.streamIn inputs else Graph.copyIn inputs) s = (.ok (), s') ∧
      Draft κ m buffers s' ∧ s'.graph.table = (s.graph.table.bindAll inputs).2 ∧
      s'.graph.nodes = s.graph.nodes ++ [n] ∧
      (n.action = .streamIn (s.graph.table.bindAll inputs).1 ∨
        n.action = .copyIn (s.graph.table.bindAll inputs).1) := by
  have hsite : s = ⟨m, s.graph⟩ := by rw [← h.machine]
  have hcopy : ∀ n k args, Command.copyIn inputs = .task n k args → κ k.id = k := by
    rintro _ _ _ ⟨⟩
  have hstream : ∀ n k args, Command.streamIn inputs = .task n k args → κ k.id = k := by
    rintro _ _ _ ⟨⟩
  cases always with
  | false =>
    refine ⟨_, _, ?_, h.add (.copyIn inputs) ⟨hmade, hcopy⟩ hb (s.graph.nextName .copyIn), rfl, rfl,
      .inr rfl⟩
    rw [if_neg Bool.false_ne_true, Graph.copyIn, Graph.addBinding_apply, if_neg h.live, hsite]
    rfl
  | true =>
    refine ⟨_, _, ?_, h.add (.streamIn inputs) ⟨hmade, hstream⟩ hb (s.graph.nextName .streamIn),
      rfl, rfl, .inl rfl⟩
    rw [if_pos rfl, Graph.streamIn, Graph.addBinding_apply, if_neg h.live, hsite]
    rfl

/-- A launch, all of whose arguments are what the parameters stand for. -/
theorem launches {k : Kernel} {args : List Arg} (h : Draft κ m buffers s) (name : String)
    (hk : κ k.id = k) (hmade : ∀ b ∈ Graph.argBuffers args, m.hosts.Has b)
    (hb : ∀ b ∈ Graph.argBuffers args, b ∈ buffers)
    (hargs : List.Forall₂ (Param.Suits m.hosts inputs) k.params args)
    (hslots : ∀ b ∈ inputs, (s.graph.table.slotOf? b).isSome) :
    ∃ s' n, Graph.task name k args s = (.ok (), s') ∧ Draft κ m buffers s' ∧
      s'.graph.table = (Graph.bindArgs s.graph.table args).2 ∧
      s'.graph.nodes = s.graph.nodes ++ [n] ∧
      n.action = .task k (Graph.bindArgs s.graph.table args).1 := by
  have hsite : s = ⟨m, s.graph⟩ := by rw [← h.machine]
  have hcheck := Graph.checkArgs_of_suits (s := s) (h.machine ▸ hargs) hslots
    (s.graph.qualified name)
  have hknown : ∀ n k' as, Command.task name k args = .task n k' as → κ k'.id = k' := by
    rintro n k' as ⟨⟩
    exact hk
  refine ⟨_, _, ?_, h.add (.task name _ k args hcheck) ⟨hmade, hknown⟩ hb name, rfl, rfl, rfl⟩
  rw [Graph.task_apply, if_neg h.live, hcheck, hsite]
  rfl

/-- Copies to the host, or none. -/
theorem copiesBack {output : HostId} {slot : SlotId} (h : Draft κ m buffers s) (back : Bool)
    (hslot : s.graph.table.slotOf? output = some slot) (hmade : m.hosts.Has output)
    (hb : output ∈ buffers) :
    ∃ s' rest, (if back then Graph.streamOut [output] else pure ()) s = (.ok (), s') ∧
      Draft κ m buffers s' ∧ s'.graph.table = s.graph.table ∧
      s'.graph.nodes = s.graph.nodes ++ rest ∧
      rest.map Node.action = if back then [.streamOut [slot]] else [] := by
  have hsite : s = ⟨m, s.graph⟩ := by rw [← h.machine]
  cases back with
  | false => exact ⟨s, [], rfl, h, rfl, (List.append_nil _).symm, rfl⟩
  | true =>
    have hbound : s.graph.boundSlots (s.graph.qualified (s.graph.nextName .streamOut)) [output] =
        .ok [slot] := by
      simp only [Graph.boundSlots, List.mapM_cons, List.mapM_nil, hslot]
      rfl
    have hmade' : ∀ b ∈ (Command.streamOut [output]).buffers, m.hosts.Has b := fun b hb =>
      List.mem_singleton.mp hb ▸ hmade
    have hknown : ∀ n k args, Command.streamOut [output] = .task n k args → κ k.id = k := by
      rintro _ _ _ ⟨⟩
    refine ⟨_, [_], ?_, h.add (.streamOut _ _ _ hbound) ⟨hmade', hknown⟩
      (fun b hb' => List.mem_singleton.mp hb' ▸ hb) (s.graph.nextName .streamOut), rfl, rfl, rfl⟩
    rw [if_pos rfl, Graph.streamOut_apply, if_neg h.live, hbound, hsite]
    rfl

end Site.Draft

/-! ### Plans -/

/-- What is to be done by a graph with one kernel. -/
structure Plan where
  /-- whether the inputs are copied on every run, or when they are stale -/
  always : Bool
  /-- whether the result is copied back -/
  back : Bool
  /-- what is copied to the device -/
  inputs : List HostId
  /-- the name of the task -/
  name : String
  /-- the kernel -/
  kernel : Kernel
  /-- what it is passed -/
  args : List Arg
  /-- the index of the argument that it writes -/
  index : Nat
  /-- the buffer that is passed there -/
  output : HostId

namespace Plan

variable {κ : KernelId → Kernel} {m : Machine} {p : Plan} {s s' : Site} {slots : List SlotId}
  {args : List TaskArg} {slot : SlotId}

/-- Add the nodes to a graph. -/
def build (p : Plan) : Step GraphError Site Unit := do
  (if p.always then Graph.streamIn p.inputs else Graph.copyIn p.inputs)
  Graph.task p.name p.kernel p.args
  (if p.back then Graph.streamOut [p.output] else pure ())

/-- The buffers of the plan. -/
def buffers (p : Plan) : List HostId := Graph.argBuffers p.args

/-- What has to hold so that a plan can be carried out. -/
structure Suits (κ : KernelId → Kernel) (m : HostMemory) (p : Plan) : Prop where
  /-- the kernel has its identity to itself -/
  known : κ p.kernel.id = p.kernel
  /-- it can be compiled -/
  valid : p.kernel.space.validate p.kernel.params = .ok ()
  /-- the buffers were made -/
  made : ∀ h ∈ p.buffers, m.Has h
  /-- the inputs are buffers of the plan -/
  inputs : ∀ h ∈ p.inputs, h ∈ p.buffers
  /-- the arguments are what the parameters stand for -/
  args : List.Forall₂ (Param.Suits m p.inputs) p.kernel.params p.args
  /-- the result is passed at its index -/
  output : p.args[p.index]? = some (.buffer p.output)
  /-- and no other argument is written -/
  writes : ∀ (i : Nat) (t : ElementType) (access : Access),
    p.kernel.params[i]? = some (.buffer t access) → access.writes = true → i = p.index

/-- The graph of a plan, with the slots that it copies to, the arguments of its task and the slot of
its result. -/
structure Stands (p : Plan) (s : Site) (slots : List SlotId) (args : List TaskArg) (slot : SlotId) :
    Prop where
  /-- its nodes do what the plan says -/
  delivers : s.Delivers slots p.kernel args p.index slot p.back
  /-- the slots that are copied to have inputs -/
  copied : ∀ x ∈ slots, (s.graph.table.get x).host ∈ p.inputs
  /-- the slot of the result has the result -/
  output : (s.graph.table.get slot).host = p.output
  /-- single values are passed on -/
  scalar : ∀ (i : Nat) (v : Scalar), p.args[i]? = some (.scalar v) → args[i]? = some (.scalar v)
  /-- so are the slots of buffers, which are copied to if the buffers are inputs -/
  buffer : ∀ (i : Nat) (h : HostId), p.args[i]? = some (.buffer h) → ∃ x,
    args[i]? = some (.slot x) ∧ (s.graph.table.get x).host = h ∧ (h ∈ p.inputs → x ∈ slots)

/-- A plan that suits the machine can be built. -/
theorem build_ok (hp : p.Suits κ m.hosts) (hm : m.Sound κ) (name : String) :
    ∃ s slots args slot, p.build ⟨m, .empty name⟩ = (.ok (), s) ∧ s.Draft κ m p.buffers ∧
      p.Stands s slots args slot := by
  have hmade := fun h hh => hp.made h (hp.inputs h hh)
  obtain ⟨s₁, copy, hstep₁, h₁, htable₁, hnodes₁, hcopy⟩ :=
    (Site.Draft.empty hm name).copies p.always hmade hp.inputs
  -- the slots of the inputs are found from now on
  have hbound : ∀ h ∈ p.inputs, ∃ x ∈ (SlotTable.empty.bindAll p.inputs).1,
      s₁.graph.table.slotOf? h = some x := fun h hh =>
    htable₁ ▸ SlotTable.exists_mem_bindAll (t := .empty) hh
  obtain ⟨s₂, task, hstep₂, h₂, htable₂, hnodes₂, htask⟩ := h₁.launches p.name hp.known hp.made
    (fun _ => id) hp.args fun h hh => (hbound h hh).elim fun x hx => hx.2 ▸ rfl
  have hlater : ∀ h x, s₁.graph.table.slotOf? h = some x → s₂.graph.table.slotOf? h = some x := by
    intro h x hx
    rw [htable₂, Graph.snd_bindArgs]
    exact SlotTable.slotOf?_bindAll_of_some hx
  have hpassed : ∀ (i : Nat) (h : HostId), p.args[i]? = some (.buffer h) → ∃ x,
      (Graph.bindArgs s₁.graph.table p.args).1[i]? = some (.slot x) ∧
        s₂.graph.table.slotOf? h = some x := by
    intro i h hi
    rw [htable₂]
    exact Graph.slot_fst_bindArgs hi
  obtain ⟨slot, harg, hslot⟩ := hpassed _ _ hp.output
  have houtput : p.output ∈ p.buffers :=
    List.mem_filterMap.mpr ⟨_, List.mem_of_getElem? hp.output, rfl⟩
  obtain ⟨s₃, rest, hstep₃, h₃, htable₃, hnodes₃, hrest⟩ :=
    h₂.copiesBack p.back hslot (hp.made _ houtput) houtput
  have hinverse : s₂.graph.table.Inverse := h₂.sound.workspace.table
  refine ⟨s₃, _, (Graph.bindArgs s₁.graph.table p.args).1, slot, ?_, h₃,
    ⟨⟨copy, task, rest, ?_, hcopy, htask, hrest⟩, fun x _ => h₃.clean x, hp.valid, harg, ?_⟩,
    ?_, ?_, fun i v => Graph.scalar_fst_bindArgs, ?_⟩
  · rw [build, bind_of_ok hstep₁, bind_of_ok hstep₂]
    exact hstep₃
  · rw [hnodes₃, hnodes₂, hnodes₁]
    rfl
  · rintro x ⟨i, type, access, hparam, hwrites, hx⟩
    obtain rfl := hp.writes i type access hparam hwrites
    exact TaskArg.slot.inj (Option.some.inj (hx.symm.trans harg))
  · intro x hx
    obtain ⟨h, hh, hfound⟩ := SlotTable.exists_of_mem_bindAll (t := .empty) hx
    rw [htable₃, hinverse.host_of_slotOf? (hlater h x (htable₁ ▸ hfound))]
    exact hh
  · rw [htable₃]
    exact hinverse.host_of_slotOf? hslot
  · intro i h hi
    obtain ⟨x, hx, hfound⟩ := hpassed i h hi
    refine ⟨x, hx, htable₃ ▸ hinverse.host_of_slotOf? hfound, fun hh => ?_⟩
    obtain ⟨x', hmem, hx'⟩ := hbound h hh
    obtain rfl : x = x' := Option.some.inj (hfound.symm.trans (hlater h x' hx'))
    exact hmem

/-! ### Runs of plans -/

/-- What the kernel of a plan is given after the inputs were copied from `m`. -/
structure Feeds (p : Plan) (m : HostMemory) (arena : Arena) (given : List LaunchArg) : Prop where
  /-- buffers have memory -/
  ready : Kernel.Ready arena given
  /-- single values are those of the plan -/
  scalar : ∀ (i : Nat) (v : Scalar), p.args[i]? = some (.scalar v) → given[i]? = some (.scalar v)
  /-- inputs hold the elements of the buffers, and the others as many elements -/
  buffer : ∀ (i : Nat) (h : HostId) (t : ScalarType), p.args[i]? = some (.buffer h) →
    (m.get h).type = .scalar t → t ≠ .bool → ∃ id b vs,
      Kernel.Holds (t := t) arena given i id b vs ∧ vs.length = (m.get h).len ∧
      (h ∈ p.inputs → vs = (ElementType.scalar t).valuesOf (m.get h).bytes (m.get h).len)
  /-- different buffers have different memory -/
  apart : ∀ (i j : Nat) (h h' : HostId), p.args[i]? = some (.buffer h) →
    p.args[j]? = some (.buffer h') → h ≠ h' → Kernel.blockAt given i ≠ Kernel.blockAt given j

namespace Stands

variable {T : SlotId → Prop} {N : HostId → Prop} {s₁ : Site} {given : List LaunchArg} {out : Bytes}

/-- The slots that the task passes were made. -/
theorem has (h : p.Stands s slots args slot) (hs : s.Sound κ) {i : Nat} {x : SlotId}
    (hi : args[i]? = some (.slot x)) : s.graph.table.Has x := by
  obtain ⟨copy, task, rest, hnodes, -, htask, -⟩ := h.delivers.nodes
  exact (hs.built.slots x).mpr
    ⟨task, by simp [hnodes], htask ▸ Action.mem_slots_task.mpr ⟨i, hi⟩⟩

/-- Once the inputs have been copied, the kernel is given what they hold. -/
theorem feeds (h : p.Stands s slots args slot) (hs : s.Sound κ)
    (hm : Site.Moves κ (· ∈ slots) (fun _ => False) s s₁)
    (hagrees : ∀ x ∈ slots, s₁.workspace.Agrees x)
    (hgiven : args.mapM (Graph.launchArg s₁.graph.table) = .ok given) :
    p.Feeds s.machine.hosts s₁.workspace.pool.arena given := by
  have hw : s₁.workspace.Sound := hm.fit.sound.workspace
  refine ⟨hw.ready hgiven, fun i v hi => ?_, fun i b t hi htype ht => ?_,
    fun i j b b' hi hj hne he => ?_⟩
  · obtain ⟨arg, harg, hv⟩ := (mapM_inv hgiven).2 i _ (h.scalar i v hi)
    rw [harg]
    exact congrArg some (Except.ok.inj hv).symm
  · obtain ⟨x, hx, hhost, hinput⟩ := h.buffer i b hi
    have hslot : slotAt args i = some x := by
      rw [slotAt, hx]
      rfl
    obtain ⟨-, c, -, hc⟩ := hw.bytes_of_slotAt hgiven hslot
    have hmade := hs.workspace.bound x (h.has hs hx)
    -- the slot still has the buffer, which has kept its type and its length
    have hbuffer : s₁.workspace.host x = s₁.machine.hosts.get b := by
      show s₁.machine.hosts.get (s₁.graph.table.get x).host = _
      rw [hm.host, hhost]
    have hlen : (s₁.machine.hosts.get b).len = (s.machine.hosts.get b).len :=
      hm.advances.hosts.len b (hhost ▸ hmade)
    have htype₁ : (s₁.workspace.host x).type = .scalar t := by
      rw [hbuffer, ← htype]
      exact hm.advances.hosts.type b (hhost ▸ hmade)
    obtain ⟨id, block, -, hholds⟩ := hw.holds hgiven hx ht htype₁ hc
    rw [hbuffer, hlen] at hholds
    refine ⟨id, block, _, hholds, ElementType.length_valuesOf _ _ _, fun hb => ?_⟩
    have hbytes : c = (s₁.workspace.host x).bytes :=
      Option.some.inj (hc.symm.trans (hagrees x (hinput hb)))
    rw [hbytes, hbuffer, hm.buffers b not_false]
  · obtain ⟨x, hx, hhost, -⟩ := h.buffer i b hi
    obtain ⟨x', hx', hhost', -⟩ := h.buffer j b' hj
    rw [hw.blockAt_eq_iff hgiven, slotAt, slotAt, hx, hx'] at he
    obtain rfl : x = x' := Option.some.inj he
    exact hne (hhost.symm.trans hhost')

/-- A run gets done and delivers what the kernel produces from the inputs. -/
theorem execute (h : p.Stands s slots args slot) (hs : s.Fit κ) (hlive : s.graph.phase ≠ .disposed)
    (hproduces : ∀ arena given, p.Feeds s.machine.hosts arena given →
      p.kernel.Produces arena given p.index out) :
    ∃ s', Graph.execute s = (.ok (s.graph.runs + 1), s') ∧
      Site.Delivered κ s slots slot p.back out s' :=
  hs.execute hlive h.delivers fun _ _ hm hagrees hgiven =>
    hproduces _ _ (h.feeds hs.sound hm hagrees hgiven)

/-- A graph stands as long as the slots that it copies to stay clean. -/
theorem moves (h : p.Stands s slots args slot) (hm : Site.Moves κ T N s s')
    (hclean : ∀ x ∈ slots, s'.workspace.Clean x) : p.Stands s' slots args slot where
  delivers :=
    { h.delivers with
      nodes := hm.nodes ▸ h.delivers.nodes
      clean := hclean }
  copied x hx := hm.host x ▸ h.copied x hx
  output := hm.host slot ▸ h.output
  scalar := h.scalar
  buffer i b hi := by
    obtain ⟨x, hx, hhost, hinput⟩ := h.buffer i b hi
    exact ⟨x, hx, (hm.host x).trans hhost, hinput⟩

end Stands

/-- A plan that copies its result back leaves there what its kernel produces from the inputs. -/
theorem run_ok {out : Bytes} (hp : p.Suits κ m.hosts) (hm : m.Fit κ (m.hosts.sizes p.buffers))
    (hback : p.back = true)
    (hproduces : ∀ arena given, p.Feeds m.hosts arena given →
      p.kernel.Produces arena given p.index out) (name : String) :
    ∃ s s', p.build ⟨m, .empty name⟩ = (.ok (), s) ∧ Graph.execute s = (.ok 1, s') ∧
      (s'.machine.hosts.get p.output).bytes = out := by
  obtain ⟨s, slots, args, slot, hbuild, hdraft, hstands⟩ := build_ok hp hm.toSound name
  obtain ⟨machine, g⟩ := s
  obtain rfl : machine = m := hdraft.machine
  obtain ⟨s', hrun, hdelivered⟩ := hstands.execute (hdraft.fit hm) hdraft.live hproduces
  rw [hdraft.runs] at hrun
  refine ⟨_, s', hbuild, hrun, ?_⟩
  rw [← hdelivered.host hback, ← hstands.output, ← hdelivered.moves.host]
  rfl

/-! ### Between the calls -/

/-- What a kernel is given depends on the bytes of the inputs only, and on types and lengths, which
stay as they are. -/
theorem Feeds.of_extends {hosts hosts' : HostMemory} {arena : Arena} {given : List LaunchArg}
    (hf : p.Feeds hosts' arena given) (hp : p.Suits κ hosts) (hm : hosts.Extends hosts')
    (hinputs : ∀ h ∈ p.inputs, (hosts'.get h).bytes = (hosts.get h).bytes) :
    p.Feeds hosts arena given where
  ready := hf.ready
  scalar := hf.scalar
  buffer i h t hi htype ht := by
    have hmade : hosts.Has h :=
      hp.made h (List.mem_filterMap.mpr ⟨_, List.mem_of_getElem? hi, rfl⟩)
    obtain ⟨id, b, vs, hholds, hlen, hvs⟩ :=
      hf.buffer i h t hi ((hm.type h hmade).trans htype) ht
    rw [hm.len h hmade] at hlen hvs
    exact ⟨id, b, vs, hholds, hlen, fun hh => hinputs h hh ▸ hvs hh⟩
  apart := hf.apart

/-- The graph of a plan between its calls. Host memory was `hosts` when the graph was built, and the
inputs still hold what they held then. -/
structure Rests (κ : KernelId → Kernel) (hosts : HostMemory) (p : Plan) (s : Site)
    (slots : List SlotId) (args : List TaskArg) (slot : SlotId) : Prop
    extends p.Stands s slots args slot where
  /-- it can be run -/
  fit : s.Fit κ
  /-- it was not disposed of -/
  live : s.graph.phase ≠ .disposed
  /-- no buffer has changed its type or its length -/
  grown : hosts.Extends s.machine.hosts
  /-- the inputs are as they were -/
  inputs : ∀ h ∈ p.inputs, (s.machine.hosts.get h).bytes = (hosts.get h).bytes

namespace Rests

variable {T : SlotId → Prop} {N : HostId → Prop} {hosts : HostMemory} {out : Bytes}

/-- A step that does not write inputs, and leaves the slots clean that are copied to. -/
theorem moves (h : Rests κ hosts p s slots args slot) (hm : Site.Moves κ T N s s')
    (hclean : ∀ x ∈ slots, s'.workspace.Clean x) (hN : ∀ b ∈ p.inputs, ¬ N b) :
    Rests κ hosts p s' slots args slot where
  toStands := h.toStands.moves hm hclean
  fit := hm.fit
  live := hm.live h.live
  grown := h.grown.trans hm.advances.hosts
  inputs b hb := (hm.buffers b (hN b hb)).trans (h.inputs b hb)

/-- A step that does nothing to device memory. -/
theorem still (h : Rests κ hosts p s slots args slot)
    (hm : Site.Moves κ (fun _ => False) N s s') (hN : ∀ b ∈ p.inputs, ¬ N b) :
    Rests κ hosts p s' slots args slot :=
  h.moves hm (fun x hx => hm.advances.clean x not_false (h.delivers.clean x hx)) hN

/-- A run gets done and leaves in device memory what the kernel produces. -/
theorem execute (h : Rests κ hosts p s slots args slot) (hp : p.Suits κ hosts)
    (hout : p.output ∉ p.inputs)
    (hproduces : ∀ arena given, p.Feeds hosts arena given →
      p.kernel.Produces arena given p.index out) :
    ∃ s' n, Graph.execute s = (.ok n, s') ∧ Rests κ hosts p s' slots args slot ∧
      s'.workspace.deviceBytes slot = some out := by
  obtain ⟨s', hrun, hdelivered⟩ := h.toStands.execute h.fit h.live fun arena given hf =>
    hproduces arena given (hf.of_extends hp h.grown h.inputs)
  refine ⟨s', _, hrun, h.moves hdelivered.moves (fun x hx => ?_) fun b hb he => ?_,
    hdelivered.device⟩
  · -- the slot of the result is none of those that are copied to
    have hne : x ≠ slot := fun he => hout (h.output ▸ he ▸ h.copied x hx)
    exact (hdelivered.agrees x hx hne).clean
  · exact hout (h.output ▸ he ▸ hb)

/-- A warm-up gets done. -/
theorem warmup (h : Rests κ hosts p s slots args slot) :
    ∃ s', Graph.warmup s = (.ok (), s') ∧ Rests κ hosts p s' slots args slot := by
  obtain ⟨s', hwarm, hm⟩ := h.fit.warmup (N := fun _ => False) h.live h.delivers.valid_of_mem
  exact ⟨s', hwarm, h.still hm fun _ _ => not_false⟩

/-- The buffer of the result gets what is in device memory. -/
theorem synchronize (h : Rests κ hosts p s slots args slot) (hout : p.output ∉ p.inputs)
    (hb : s.workspace.deviceBytes slot = some out) :
    ∃ s', Graph.synchronize [p.output] s = (.ok (), s') ∧ Rests κ hosts p s' slots args slot ∧
      (s'.machine.hosts.get p.output).bytes = out := by
  obtain ⟨s', hsync, hm, hbytes⟩ := h.fit.synchronize h.live hb
  refine ⟨s', h.output ▸ hsync, h.still hm fun b hb he => hout (h.output ▸ he ▸ hb), ?_⟩
  rw [← hbytes, ← h.output, ← hm.host]
  rfl

/-- A profile can be emptied. -/
theorem clearProfile (h : Rests κ hosts p s slots args slot) :
    ∃ s', Graph.clearProfile s = (.ok (), s') ∧ Rests κ hosts p s' slots args slot ∧
      s'.machine = s.machine := by
  have hm : Site.Moves κ (fun _ => False) (fun _ => False) s _ := h.fit.withGraph
    (f := ({ · with profile := .empty })) ⟨fun _ => rfl, fun _ => rfl, fun _ => rfl, fun _ h => h⟩
  rw [Graph.clearProfile_apply, if_neg h.live]
  exact ⟨_, rfl, h.still hm fun _ _ => not_false, rfl⟩

end Rests

/-- A plan that suits the machine can be built, and rests on it then. -/
theorem build_rests (hp : p.Suits κ m.hosts) (hm : m.Fit κ (m.hosts.sizes p.buffers))
    (name : String) :
    ∃ s slots args slot, p.build ⟨m, .empty name⟩ = (.ok (), s) ∧
      Rests κ m.hosts p s slots args slot := by
  obtain ⟨s, slots, args, slot, hbuild, hdraft, hstands⟩ := build_ok hp hm.toSound name
  obtain ⟨machine, g⟩ := s
  obtain rfl : machine = m := hdraft.machine
  exact ⟨_, slots, args, slot, hbuild, hstands, hdraft.fit hm, hdraft.live, .refl _,
    fun _ _ => rfl⟩

end Plan

end Offload
