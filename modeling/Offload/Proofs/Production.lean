import Offload.Proofs.Ownership

/-!
# No kernel reads what nothing produced

When a node is added, the only question asked is whether the buffers that it reads have slots.
Since a task is checked before it binds anything, a buffer that has no slot then can only be
written by it. So the first node about a slot makes the contents of the slot without having looked
at them, and all that is read later has been made earlier. Buffers may be exchanged in between:
nodes are about slots, and a slot stays the same slot.

* `Action.Produces` — a node makes the contents of a slot.
* `Graph.Founded` — in a list of nodes, each is about slots that it produces or that came earlier.
* `Command.founded_run` — whatever is asked of a graph, its nodes stay so.
* `Graph.produced_before_read` — what holds of a graph after any calls.
-/

namespace Offload

namespace Action

variable {a : Action} {s : SlotId}

/-- The node copies to the slot, or it is a task that takes the slot to write it and for nothing
else. -/
def Produces (a : Action) (s : SlotId) : Prop :=
  match a with
  | .streamIn slots | .copyIn slots => s ∈ slots
  | .task k args => s ∈ (Action.task k args).slots ∧
      ∀ i : Nat, args[i]? = some (.slot s) → ∃ t, k.params[i]? = some (.buffer t .write)
  | .streamOut _ | .barrier => False

/-- A node is about the slots that it produces. -/
theorem Produces.mem (h : a.Produces s) : s ∈ a.slots := by
  cases a with
  | streamIn slots => exact h
  | copyIn slots => exact h
  | task k args => exact h.1
  | streamOut slots => exact h.elim
  | barrier => exact h.elim

/-- A node is about the slots that it needs. -/
theorem Needs.mem (h : a.Needs s) : s ∈ a.slots := by
  cases a with
  | task k args =>
    obtain ⟨i, -, -, -, -, harg⟩ := h
    exact mem_slots_task.mpr ⟨i, harg⟩
  | streamOut slots => exact h
  | _ => exact h.elim

/-- No node produces what it needs. -/
theorem Needs.not_produces (h : a.Needs s) : ¬ a.Produces s := by
  cases a with
  | task k args =>
    obtain ⟨i, t, access, hparam, hreads, harg⟩ := h
    rintro ⟨-, hwrite⟩
    obtain ⟨t', hparam'⟩ := hwrite i harg
    obtain ⟨rfl, rfl⟩ : t = t' ∧ access = .write := by simpa [hparam] using hparam'
    cases hreads
  | streamOut slots => exact id
  | _ => exact h.elim

end Action

/-! ### Lists of nodes -/

namespace Graph

/-- Each node is about slots that it produces, or that an earlier node is about. -/
inductive Founded : List Node → Prop where
  /-- there are no nodes -/
  | nil : Founded []
  /-- one more node -/
  | concat {ns : List Node} {n : Node} (h : Founded ns)
      (hn : ∀ s ∈ n.action.slots, n.action.Produces s ∨ ∃ m ∈ ns, s ∈ m.action.slots) :
      Founded (ns ++ [n])

namespace Founded

variable {ns : List Node} {n : Node} {s : SlotId} {i : Nat}

/-- What a node is about, some node produces. -/
theorem exists_produces (h : Founded ns) (hs : ∃ m ∈ ns, s ∈ m.action.slots) :
    ∃ m ∈ ns, m.action.Produces s := by
  induction h with
  | nil =>
    obtain ⟨m, hm, -⟩ := hs
    exact absurd hm List.not_mem_nil
  | @concat ns n _ hn ih =>
    have hearlier : (∃ m ∈ ns, s ∈ m.action.slots) → ∃ m ∈ ns ++ [n], m.action.Produces s := by
      intro hold
      obtain ⟨m, hm, hp⟩ := ih hold
      exact ⟨m, List.mem_append_left _ hm, hp⟩
    obtain ⟨m, hm, hs⟩ := hs
    rcases List.mem_append.mp hm with hold | hnew
    · exact hearlier ⟨m, hold, hs⟩
    · obtain rfl := List.mem_singleton.mp hnew
      rcases hn s hs with hp | hold
      · exact ⟨m, hm, hp⟩
      · exact hearlier hold

/-- A node produces what it is about, or a node before it does. -/
theorem produces_or_earlier (h : Founded ns) (hi : ns[i]? = some n) (hs : s ∈ n.action.slots) :
    n.action.Produces s ∨ ∃ j < i, ∃ m, ns[j]? = some m ∧ m.action.Produces s := by
  induction h with
  | nil => simp at hi
  | @concat ns n₀ h hn ih =>
    have hlt := (List.getElem?_eq_some_iff.mp hi).1
    rw [List.length_append, List.length_singleton] at hlt
    rcases Nat.lt_succ_iff_lt_or_eq.mp hlt with hlt | rfl
    · rw [List.getElem?_append_left hlt] at hi
      rcases ih hi with hp | ⟨j, hj, m, hm, hp⟩
      · exact .inl hp
      · refine .inr ⟨j, hj, m, ?_, hp⟩
        rwa [List.getElem?_append_left (Nat.lt_trans hj hlt)]
    · obtain rfl : n₀ = n := by simpa using hi
      refine (hn s hs).imp_right fun hold => ?_
      obtain ⟨m, hm, hp⟩ := h.exists_produces hold
      obtain ⟨j, hj⟩ := List.mem_iff_getElem?.mp hm
      have hlt := (List.getElem?_eq_some_iff.mp hj).1
      exact ⟨j, hlt, m, by rwa [List.getElem?_append_left hlt], hp⟩

end Founded

end Graph

/-! ### Calls -/

/-- A node that is added produces its slots as far as they are new. -/
theorem Site.Adds.produces {s : Site} {c : Command} {a : Action} {t : SlotTable}
    (h : s.Adds c a t) (ht : s.graph.table.Inverse) {slot : SlotId} (hslot : slot ∈ a.slots) :
    a.Produces slot ∨ s.graph.table.Has slot := by
  cases h with
  | streamIn buffers => exact .inl hslot
  | copyIn buffers => exact .inl hslot
  | task name node k args hcheck =>
    by_cases hold : s.graph.table.Has slot
    · exact .inr hold
    · refine .inl ⟨hslot, ?_⟩
      intro i harg
      obtain ⟨b, hb, hbound⟩ := Graph.getElem?_bindArgs harg
      obtain ⟨_ | ⟨type, access⟩, hparam, hfits⟩ := Graph.exists_param hcheck hb
      · cases hfits
      · cases hreads : access.reads with
        | true =>
          -- what is read had a slot already, and it is this one
          obtain ⟨slot', hslot'⟩ := Graph.slotOf?_of_checkArg hreads hfits
          rw [Graph.snd_bindArgs, SlotTable.slotOf?_bindAll_of_some hslot'] at hbound
          obtain rfl : slot' = slot := Option.some.inj hbound
          exact absurd (ht.has_of_slotOf? hslot') hold
        | false =>
          obtain rfl : access = .write := by cases access <;> first | rfl | cases hreads
          exact ⟨type, hparam⟩
  | streamOut node buffers slots hslots =>
    obtain ⟨b, -, hb⟩ := Graph.mem_boundSlots hslots hslot
    exact .inr (ht.has_of_slotOf? hb)
  | barrier => exact absurd hslot List.not_mem_nil

/-- Whatever is asked of a graph, and on whatever machine, each of its nodes is about slots that
it produces or that came earlier. -/
theorem Command.founded_run {s : Site} (hs : s.graph.Tidy) (h : Graph.Founded s.graph.nodes)
    (c : Command) : Graph.Founded (c.run s).2.graph.nodes := by
  cases hadds : c.adds with
  | false => rwa [(keeps_run_of_not_adds hadds s).1]
  | true =>
    rcases run_of_adds hadds s with ⟨e, hrun⟩ | ⟨name, a, t, hadd, hrun⟩ <;> rw [hrun]
    · exact h
    · refine h.concat fun slot hslot => (hadd.produces hs.inverse hslot).imp_right ?_
      exact (hs.built.slots slot).mp

namespace Graph

/-- The graph after calls, whether they succeed or not. In between, anything may have happened to
the machine. -/
def after (g : Graph) : List (Machine × Command) → Graph
  | [] => g
  | (m, c) :: r => (c.run ⟨m, g⟩).2.graph.after r

theorem founded_after {g : Graph} (hg : g.Tidy) (h : Founded g.nodes)
    (calls : List (Machine × Command)) :
    (g.after calls).Tidy ∧ Founded (g.after calls).nodes := by
  induction calls generalizing g with
  | nil => exact ⟨hg, h⟩
  | cons call r ih =>
    obtain ⟨m, c⟩ := call
    exact ih (Command.balances_run (s := ⟨m, g⟩) hg c).1 (Command.founded_run (s := ⟨m, g⟩) hg h c)

/-- After any calls, the first node about a slot produces it, and a node that needs a slot comes
after one that produces it. -/
theorem produced_before_read (name : String) (calls : List (Machine × Command)) :
    (∀ (i : Nat) (n : Node) (s : SlotId), ((empty name).after calls).nodes[i]? = some n →
      s ∈ n.action.slots →
      (∀ j < i, ∀ m, ((empty name).after calls).nodes[j]? = some m → s ∉ m.action.slots) →
      n.action.Produces s) ∧
    ∀ (i : Nat) (n : Node) (s : SlotId), ((empty name).after calls).nodes[i]? = some n →
      n.action.Needs s →
      ∃ j < i, ∃ m, ((empty name).after calls).nodes[j]? = some m ∧ m.action.Produces s := by
  obtain ⟨-, h⟩ := founded_after (.empty name) .nil calls
  constructor
  · intro i n s hi hs hfirst
    rcases h.produces_or_earlier hi hs with hp | ⟨j, hj, m, hm, hp⟩
    · exact hp
    · exact absurd hp.mem (hfirst j hj m hm)
  · intro i n s hi hs
    exact (h.produces_or_earlier hi hs.mem).resolve_left hs.not_produces

end Graph

end Offload
