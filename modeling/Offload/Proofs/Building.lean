import Offload.Proofs.Progress

/-!
# What is read was made available

The functions that add nodes see to it that no node reads what no earlier node is about. The
slots of a graph are just those that its nodes are about.

* `Graph.Ordered` — in a list of nodes, what one of them needs comes earlier.
* `Graph.Built` — what holds of every graph, however it was built.
* `Graph.Built.push`, `Graph.Built.tasked` — adding a node.
-/

namespace Offload

/-! ### Slots of new nodes -/

namespace SlotTable

variable {t : SlotTable} {s : SlotId}

theorem bindAll_cons (t : SlotTable) (h : HostId) (r : List HostId) :
    t.bindAll (h :: r) =
      ((t.bind h).1 :: ((t.bind h).2.bindAll r).1, ((t.bind h).2.bindAll r).2) := rfl

/-- A slot is found after others were made. -/
theorem slotOf?_bindAll_of_some {hs : List HostId} {h : HostId} (hh : t.slotOf? h = some s) :
    (t.bindAll hs).2.slotOf? h = some s := by
  induction hs generalizing t with
  | nil => exact hh
  | cons h₀ r ih => exact ih (slotOf?_bind_of_some hh)

/-- The slot that was returned for a buffer holds it. -/
theorem getElem?_bindAll {hs : List HostId} {i : Nat} {h : HostId} (hi : hs[i]? = some h) :
    ∃ s, (t.bindAll hs).1[i]? = some s ∧ (t.bindAll hs).2.slotOf? h = some s := by
  induction hs generalizing t i with
  | nil => simp at hi
  | cons h₀ r ih =>
    rw [bindAll_cons]
    cases i with
    | zero =>
      obtain rfl : h₀ = h := by simpa using hi
      exact ⟨_, rfl, slotOf?_bindAll_of_some (slotOf?_bind t h₀)⟩
    | succ i => exact ih (t := (t.bind h₀).2) (by simpa using hi)

theorem length_bindAll (hs : List HostId) (t : SlotTable) :
    (t.bindAll hs).1.length = hs.length := by
  induction hs generalizing t with
  | nil => rfl
  | cons h r ih => exact congrArg Nat.succ (ih _)

/-- The slots that were returned were made. -/
theorem has_of_mem_bindAll {hs : List HostId} (ht : t.Inverse) (hs' : s ∈ (t.bindAll hs).1) :
    (t.bindAll hs).2.Has s := by
  obtain ⟨i, hi⟩ := List.mem_iff_getElem?.mp hs'
  have hlt : i < hs.length := by
    rw [← length_bindAll hs t]
    exact (List.getElem?_eq_some_iff.mp hi).1
  obtain ⟨s₁, h₁, hslot⟩ := getElem?_bindAll (t := t) (List.getElem?_eq_getElem hlt)
  obtain rfl : s = s₁ := Option.some.inj (hi.symm.trans h₁)
  exact (ht.bindAll hs).has_of_slotOf? hslot

/-- A slot that was made was there before, or was returned. -/
theorem has_bindAll {hs : List HostId} (h : (t.bindAll hs).2.Has s) :
    t.Has s ∨ s ∈ (t.bindAll hs).1 := by
  induction hs generalizing t with
  | nil => exact .inl h
  | cons h₀ r ih =>
    rw [bindAll_cons] at h ⊢
    rcases ih h with hold | hnew
    · rcases hslot : t.slotOf? h₀ with _ | s₀
      · have hfirst : (t.bind h₀).1 = ⟨t.slots.size⟩ := by rw [bind_of_none hslot]
        have hsize : (t.bind h₀).2.slots.size = t.slots.size + 1 := by
          rw [bind_of_none hslot]
          exact Array.size_push _
        by_cases he : s.index = t.slots.size
        · refine .inr (List.mem_cons.mpr (.inl ?_))
          rw [hfirst, ← he]
        · have hlt : s.index < (t.bind h₀).2.slots.size := hold
          exact .inl (show s.index < t.slots.size by omega)
      · rw [bind_of_some hslot] at hold
        exact .inl hold
    · exact .inr (List.mem_cons_of_mem _ hnew)

end SlotTable

/-! ### Arguments of tasks -/

/-- The slots of a task are those among its arguments. -/
theorem Action.mem_slots_task {k : Kernel} {args : List TaskArg} {s : SlotId} :
    s ∈ (task k args).slots ↔ ∃ i : Nat, args[i]? = some (.slot s) := by
  rw [← List.mem_iff_getElem?]
  show s ∈ List.filterMap _ args ↔ _
  rw [List.mem_filterMap]
  constructor
  · rintro ⟨_ | slot, harg, hslot⟩
    · cases hslot
    · cases hslot
      exact harg
  · intro h
    exact ⟨_, h, rfl⟩

namespace Graph

/-- The buffers among arguments, in order. -/
def argBuffers (args : List Arg) : List HostId :=
  args.filterMap fun
    | .buffer h => some h
    | .scalar _ => none

/-- Binding arguments is binding the buffers among them. -/
theorem snd_bindArgs (t : SlotTable) (args : List Arg) :
    (bindArgs t args).2 = (t.bindAll (argBuffers args)).2 := by
  induction args generalizing t with
  | nil => rfl
  | cons a r ih =>
    cases a with
    | scalar v => exact ih t
    | buffer h => exact ih (t.bind h).2

/-- The slots of a task are those of the buffers among its arguments. -/
theorem slots_bindArgs (k : Kernel) (t : SlotTable) (args : List Arg) :
    (Action.task k (bindArgs t args).1).slots = (t.bindAll (argBuffers args)).1 := by
  induction args generalizing t with
  | nil => rfl
  | cons a r ih =>
    cases a with
    | scalar v => exact ih t
    | buffer h => exact congrArg (List.cons (t.bind h).1) (ih (t.bind h).2)

/-- A slot among the arguments of a task is that of the buffer that was passed there. -/
theorem getElem?_bindArgs {t : SlotTable} {args : List Arg} {i : Nat} {s : SlotId}
    (hi : (bindArgs t args).1[i]? = some (.slot s)) :
    ∃ h, args[i]? = some (.buffer h) ∧ (bindArgs t args).2.slotOf? h = some s := by
  induction args generalizing t i with
  | nil => simp [bindArgs] at hi
  | cons a r ih =>
    cases i with
    | zero =>
      cases a with
      | scalar v => simp [bindArgs] at hi
      | buffer h =>
        obtain rfl : (t.bind h).1 = s := by simpa [bindArgs] using hi
        refine ⟨h, rfl, ?_⟩
        rw [snd_bindArgs]
        have hbound : ((t.bind h).2.bindAll (argBuffers r)).2.slotOf? h = some (t.bind h).1 :=
          SlotTable.slotOf?_bindAll_of_some (SlotTable.slotOf?_bind t h)
        exact hbound
    | succ i =>
      cases a with
      | scalar v => exact ih (t := t) (by simpa [bindArgs] using hi)
      | buffer h => exact ih (t := (t.bind h).2) (by simpa [bindArgs] using hi)

/-- A scalar among the arguments of a task was passed there. -/
theorem scalar_of_bindArgs {t : SlotTable} {args : List Arg} {i : Nat} {v : Scalar}
    (hi : (bindArgs t args).1[i]? = some (.scalar v)) : args[i]? = some (.scalar v) := by
  induction args generalizing t i with
  | nil => simp [bindArgs] at hi
  | cons a r ih =>
    cases i with
    | zero =>
      cases a with
      | scalar v' => simpa [bindArgs] using hi
      | buffer h => simp [bindArgs] at hi
    | succ i =>
      cases a with
      | scalar v' => exact ih (t := t) (by simpa [bindArgs] using hi)
      | buffer h => exact ih (t := (t.bind h).2) (by simpa [bindArgs] using hi)

theorem length_bindArgs (t : SlotTable) (args : List Arg) :
    (bindArgs t args).1.length = args.length := by
  induction args generalizing t with
  | nil => rfl
  | cons a r ih =>
    cases a with
    | scalar v => exact congrArg Nat.succ (ih t)
    | buffer h => exact congrArg Nat.succ (ih (t.bind h).2)

/-- Arguments that were accepted are acceptable one by one. -/
theorem checkArg_of_checkArgsFrom {s : Site} {node : String} {ps : List Param} {args : List Arg}
    {first i : Nat} {p : Param} {a : Arg} (h : checkArgsFrom s node first ps args = .ok ())
    (hp : ps[i]? = some p) (ha : args[i]? = some a) :
    checkArg s node (first + i) p a = .ok () := by
  induction ps generalizing first i args with
  | nil => simp at hp
  | cons p₀ ps ih =>
    cases args with
    | nil => simp at ha
    | cons a₀ args =>
      rw [checkArgsFrom] at h
      rcases h₀ : checkArg s node first p₀ a₀ with e | u <;> rw [h₀] at h
      · cases h
      · cases i with
        | zero =>
          obtain rfl : p₀ = p := by simpa using hp
          obtain rfl : a₀ = a := by simpa using ha
          exact h₀
        | succ i =>
          have := ih h (by simpa using hp) (by simpa using ha)
          rwa [show first + 1 + i = first + (i + 1) by omega] at this

/-- Arguments that were accepted are as many as the parameters, and each fits its parameter. -/
theorem checkArgs_inv {s : Site} {node : String} {k : Kernel} {args : List Arg}
    (h : checkArgs s node k args = .ok ()) : args.length = k.params.length ∧
      ∀ (i : Nat) p a, k.params[i]? = some p → args[i]? = some a →
        checkArg s node i p a = .ok () := by
  rw [checkArgs] at h
  split at h
  · cases h
  · rename_i hlen
    refine ⟨Decidable.not_not.mp hlen, ?_⟩
    intro i p a hp ha
    have := checkArg_of_checkArgsFrom h hp ha
    rwa [Nat.zero_add] at this

/-- Each argument that was accepted has a parameter that it fits. -/
theorem exists_param {s : Site} {node : String} {k : Kernel} {args : List Arg} {i : Nat} {a : Arg}
    (h : checkArgs s node k args = .ok ()) (ha : args[i]? = some a) :
    ∃ p, k.params[i]? = some p ∧ checkArg s node i p a = .ok () := by
  obtain ⟨hlen, hfits⟩ := checkArgs_inv h
  have hi : i < k.params.length := hlen ▸ (List.getElem?_eq_some_iff.mp ha).1
  exact ⟨_, List.getElem?_eq_getElem hi, hfits i _ a (List.getElem?_eq_getElem hi) ha⟩

/-- A buffer that is to be read has a slot. -/
theorem slotOf?_of_checkArg {s : Site} {node : String} {index : Nat} {t : ElementType}
    {access : Access} {h : HostId} (hr : access.reads = true)
    (hc : checkArg s node index (.buffer t access) (.buffer h) = .ok ()) :
    ∃ slot, s.graph.table.slotOf? h = some slot := by
  rw [checkArg] at hc
  split at hc
  · cases hc
  · split at hc
    · cases hc
    · rename_i hslot
      rcases h' : s.graph.table.slotOf? h with _ | slot
      · rw [hr, h'] at hslot
        exact absurd rfl hslot
      · exact ⟨slot, rfl⟩

/-- Slots of buffers that all have one. -/
theorem mem_boundSlots {g : Graph} {node : String} {buffers : List HostId} {slots : List SlotId}
    (h : g.boundSlots node buffers = .ok slots) {s : SlotId} (hs : s ∈ slots) :
    ∃ b ∈ buffers, g.table.slotOf? b = some s := by
  obtain ⟨i, hi⟩ := List.mem_iff_getElem?.mp hs
  obtain ⟨b, hb, hslot⟩ := getElem?_of_mapM h hi
  refine ⟨b, List.mem_of_getElem? hb, ?_⟩
  rcases hb' : g.table.slotOf? b with _ | s' <;> rw [hb'] at hslot <;> cases hslot
  rfl

end Graph

/-! ### Order -/

/-- A node can only be carried out when device memory of a slot holds something. -/
def Action.Needs (a : Action) (s : SlotId) : Prop :=
  match a with
  | .streamOut slots => s ∈ slots
  | .task k args => ∃ (i : Nat) (t : ElementType) (access : Access),
      k.params[i]? = some (.buffer t access) ∧ access.reads = true ∧ args[i]? = some (.slot s)
  | _ => False

namespace Graph

/-- What a node needs is available in the beginning, or an earlier node is about it. -/
def Ordered (D : SlotId → Prop) : List Node → Prop
  | [] => True
  | n :: r => (∀ s, n.action.Needs s → D s) ∧ Ordered (fun s => D s ∨ s ∈ n.action.slots) r

/-- Of nodes that follow others, what they need may also be what those are about. -/
theorem ordered_append {D : SlotId → Prop} {xs ys : List Node} :
    Ordered D (xs ++ ys) ↔
      Ordered D xs ∧ Ordered (fun s => D s ∨ ∃ m ∈ xs, s ∈ m.action.slots) ys := by
  induction xs generalizing D with
  | nil => simp [Ordered]
  | cons m r ih =>
    have hslots : (fun s => (D s ∨ s ∈ m.action.slots) ∨ ∃ m' ∈ r, s ∈ m'.action.slots) =
        fun s => D s ∨ ∃ m' ∈ m :: r, s ∈ m'.action.slots := by
      funext s
      simp [or_assoc]
    rw [List.cons_append, Ordered, Ordered, ih, hslots, and_assoc]

/-- One more node at the end. -/
theorem Ordered.concat {D : SlotId → Prop} {ns : List Node} {n : Node} (h : Ordered D ns)
    (hn : ∀ s, n.action.Needs s → D s ∨ ∃ m ∈ ns, s ∈ m.action.slots) : Ordered D (ns ++ [n]) :=
  ordered_append.mpr ⟨h, hn, trivial⟩

/-- What holds of every graph. -/
structure Built (g : Graph) : Prop where
  /-- a slot was made just where a node is about it -/
  slots : ∀ s, g.table.Has s ↔ ∃ n ∈ g.nodes, s ∈ n.action.slots
  /-- what a node needs, an earlier node is about -/
  ordered : Ordered (fun _ => False) g.nodes

namespace Built

variable {g g' : Graph}

theorem empty (name : String) : (empty name).Built where
  slots s := by
    refine ⟨fun h => absurd h (Nat.not_lt_zero _), fun ⟨n, hn, _⟩ => absurd hn List.not_mem_nil⟩
  ordered := trivial

/-- The same nodes, and as many slots. -/
theorem of_nodes (h : g.Built) (hn : g'.nodes = g.nodes)
    (ht : ∀ s, g'.table.Has s ↔ g.table.Has s) : g'.Built where
  slots s := by rw [ht, h.slots, hn]
  ordered := hn ▸ h.ordered

/-- One more node, with the slots that it is about. -/
theorem push {t : SlotTable} {name : String} {a : Action} (h : g.Built)
    (hg : ∀ s, g.table.Has s → t.Has s) (hold : ∀ s, t.Has s → g.table.Has s ∨ s ∈ a.slots)
    (hnew : ∀ s ∈ a.slots, t.Has s) (hneeds : ∀ s, a.Needs s → g.table.Has s) :
    ({ g with table := t }.push name a).Built where
  slots s := by
    show t.Has s ↔ ∃ n ∈ g.nodes ++ [⟨name, a⟩], s ∈ n.action.slots
    simp only [List.mem_append, List.mem_singleton]
    constructor
    · intro hs
      rcases hold s hs with hs | hs
      · obtain ⟨n, hn, hs⟩ := (h.slots s).mp hs
        exact ⟨n, .inl hn, hs⟩
      · exact ⟨⟨name, a⟩, .inr rfl, hs⟩
    · rintro ⟨n, hn | rfl, hs⟩
      · exact hg s ((h.slots s).mpr ⟨n, hn, hs⟩)
      · exact hnew s hs
  ordered := h.ordered.concat fun s hs => .inr ((h.slots s).mp (hneeds s hs))

/-- One more task, all of whose arguments were accepted. -/
theorem tasked {s : Site} {node name : String} {k : Kernel} {args : List Arg} (h : s.graph.Built)
    (ht : s.graph.table.Inverse) (hcheck : checkArgs s node k args = .ok ()) :
    ({ s.graph with table := (bindArgs s.graph.table args).2 }.push name
      (.task k (bindArgs s.graph.table args).1)).Built := by
  refine h.push ?_ ?_ ?_ ?_
  · intro _ hs
    rw [snd_bindArgs]
    exact (SlotTable.grows_bindAll _ _).has hs
  · intro slot hs
    rw [snd_bindArgs] at hs
    rw [slots_bindArgs]
    exact SlotTable.has_bindAll hs
  · intro slot hs
    rw [slots_bindArgs] at hs
    rw [snd_bindArgs]
    exact SlotTable.has_of_mem_bindAll ht hs
  · intro slot hs
    -- the slot that is read was found when the argument was checked
    obtain ⟨i, t, access, hp, hr, hi⟩ := hs
    obtain ⟨b, hb, hslot⟩ := getElem?_bindArgs hi
    obtain ⟨slot', hold⟩ := slotOf?_of_checkArg hr ((checkArgs_inv hcheck).2 i _ _ hp hb)
    rw [snd_bindArgs, SlotTable.slotOf?_bindAll_of_some hold] at hslot
    obtain rfl : slot' = slot := Option.some.inj hslot
    exact ht.has_of_slotOf? hold

end Built

end Graph

end Offload
