import Offload.Proofs.Command

/-!
# Calls with other buffers

A table of slots may have other buffers in its slots by now than those that a graph was built with.
A call that has been made with the old ones can be made with those that are in the same slots
now. It then comes to the same slots.

* `SlotTable.Shadows` — a table with the slots of another one and the buffers of a third.
* `SlotTable.Renames` — a way from buffers to those that are in their slots now.
* `Command.rename` — a call with other buffers.
* `Command.adds_inv` — calls that add nodes, or fail to.
-/

namespace Offload

open Step

namespace SlotTable

variable {T t t' : SlotTable} {ρ : HostId → HostId} {h : HostId}

/-- `t'` has the slots of `t`, with the buffers that they have in `T`. -/
structure Shadows (T t t' : SlotTable) : Prop where
  /-- slots and buffers lead to each other -/
  inverse : t'.Inverse
  /-- there are the same slots -/
  size : t'.slots.size = t.slots.size
  /-- each has the buffer that it has in `T` -/
  host : ∀ s, t.Has s → (t'.get s).host = (T.get s).host

/-- `ρ` leads from a buffer to the one that `T` has in its slot. -/
def Renames (T t : SlotTable) (ρ : HostId → HostId) : Prop :=
  ∀ h s, t.slotOf? h = some s → ρ h = (T.get s).host

/-- The buffer that `T` has in the slot of a buffer. -/
def successor (T t : SlotTable) (h : HostId) : HostId :=
  (t.slotOf? h).elim h fun s => (T.get s).host

theorem renames_successor (T t : SlotTable) : Renames T t (successor T t) := by
  intro h s hs
  rw [successor, hs]
  rfl

theorem Shadows.has (hs : Shadows T t t') (s : SlotId) : t'.Has s ↔ t.Has s := by
  rw [Has, Has, hs.size]

/-- A buffer that has a slot leads to one that has the same slot. -/
theorem Shadows.slotOf? (hs : Shadows T t t') (ht : t.Inverse) {s : SlotId}
    (hh : t.slotOf? h = some s) : t'.slotOf? (T.get s).host = some s := by
  have hhas := ht.has_of_slotOf? hh
  exact (hs.inverse.slotOf?_iff _ s).mpr ⟨(hs.has s).mpr hhas, hs.host s hhas⟩

/-- Tables with the same slots have as many. -/
theorem size_of_has (hs : ∀ s, t'.Has s ↔ t.Has s) : t'.slots.size = t.slots.size := by
  have h₁ : ¬ t.slots.size < t'.slots.size := fun hlt =>
    Nat.lt_irrefl _ ((hs ⟨t.slots.size⟩).mp hlt)
  have h₂ : ¬ t'.slots.size < t.slots.size := fun hlt =>
    Nat.lt_irrefl _ ((hs ⟨t'.slots.size⟩).mpr hlt)
  omega

/-- Binding a buffer on the one side, and the one that `T` has in its slot on the other. -/
theorem Shadows.bind (hs : Shadows T t t') (ht : t.Inverse) (hT : T.Inverse)
    (hgrow : ∀ s, (t.bind h).2.Has s → T.Has s) :
    (t'.bind (T.get (t.bind h).1).host).1 = (t.bind h).1 ∧
      Shadows T (t.bind h).2 (t'.bind (T.get (t.bind h).1).host).2 := by
  rcases hslot : t.slotOf? h with _ | s
  · rw [bind_of_none hslot] at hgrow ⊢
    dsimp only at hgrow ⊢
    -- a slot with that buffer would be the new one
    have hnone : t'.slotOf? (T.get ⟨t.slots.size⟩).host = none := by
      rcases hold : t'.slotOf? (T.get ⟨t.slots.size⟩).host with _ | s
      · rfl
      · have hhas : t.Has s := (hs.has s).mp (hs.inverse.has_of_slotOf? hold)
        have hhost := hs.inverse.host_of_slotOf? hold
        rw [hs.host s hhas] at hhost
        have hgrown : ∀ s', t.Has s' ∨ s'.index = t.slots.size → T.Has s' := fun s' h' => by
          refine hgrow s' ?_
          simp only [Has, Array.size_push]
          simp only [Has] at h'
          omega
        obtain rfl := hT.host_injective (hgrown s (.inl hhas)) (hgrown _ (.inr rfl)) hhost
        exact absurd hhas (Nat.lt_irrefl _)
    rw [bind_of_none hnone]
    have hinverse := hs.inverse.bind (T.get ⟨t.slots.size⟩).host
    rw [bind_of_none hnone] at hinverse
    refine ⟨by rw [hs.size], hinverse, ?_, ?_⟩
    · simp only [Array.size_push, hs.size]
    · intro s hhas
      rw [get_push, hs.size]
      split
      · rename_i he
        rw [← he]
        rfl
      · rename_i hne
        refine hs.host s ?_
        simp only [Has, Array.size_push] at hhas ⊢
        omega
  · rw [bind_of_some hslot]
    dsimp only
    rw [bind_of_some (hs.slotOf? ht hslot)]
    exact ⟨rfl, hs⟩

/-- Binding buffers on the one side, and those that `T` has in their slots on the other. -/
theorem Shadows.bindAll {hs : List HostId} (h : Shadows T t t') (ht : t.Inverse) (hT : T.Inverse)
    (hgrow : ∀ s, (t.bindAll hs).2.Has s → T.Has s) (hρ : Renames T (t.bindAll hs).2 ρ) :
    (t'.bindAll (hs.map ρ)).1 = (t.bindAll hs).1 ∧
      Shadows T (t.bindAll hs).2 (t'.bindAll (hs.map ρ)).2 := by
  induction hs generalizing t t' with
  | nil => exact ⟨rfl, h⟩
  | cons h₀ r ih =>
    rw [List.map_cons, bindAll_cons, bindAll_cons] at *
    have hname : ρ h₀ = (T.get (t.bind h₀).1).host :=
      hρ h₀ _ (slotOf?_bindAll_of_some (slotOf?_bind t h₀))
    obtain ⟨hfirst, h₁⟩ := h.bind ht hT (h := h₀) fun s hs =>
      hgrow s ((grows_bindAll r _).has hs)
    rw [hname]
    obtain ⟨hrest, h₂⟩ := ih h₁ (ht.bind h₀) hgrow hρ
    exact ⟨by rw [hfirst, hrest], h₂⟩

end SlotTable

/-! ### Calls with other buffers -/

/-- The argument with another buffer. -/
def Arg.rename (ρ : HostId → HostId) : Arg → Arg
  | scalar v => scalar v
  | buffer h => buffer (ρ h)

namespace Graph

variable {T t t' : SlotTable} {ρ : HostId → HostId}

theorem argBuffers_rename (ρ : HostId → HostId) (args : List Arg) :
    argBuffers (args.map (.rename ρ)) = (argBuffers args).map ρ := by
  induction args with
  | nil => rfl
  | cons a r ih =>
    cases a with
    | scalar v => exact ih
    | buffer h => exact congrArg (List.cons (ρ h)) ih

/-- Binding arguments on the one side, and arguments with other buffers on the other. -/
theorem shadows_bindArgs {args : List Arg} (h : SlotTable.Shadows T t t') (ht : t.Inverse)
    (hT : T.Inverse) (hgrow : ∀ s, (bindArgs t args).2.Has s → T.Has s)
    (hρ : SlotTable.Renames T (bindArgs t args).2 ρ) :
    (bindArgs t' (args.map (.rename ρ))).1 = (bindArgs t args).1 ∧
      SlotTable.Shadows T (bindArgs t args).2 (bindArgs t' (args.map (.rename ρ))).2 := by
  induction args generalizing t t' with
  | nil => exact ⟨rfl, h⟩
  | cons a r ih =>
    cases a with
    | scalar v =>
      obtain ⟨hrest, h₁⟩ := ih h ht hgrow hρ
      exact ⟨congrArg (List.cons (TaskArg.scalar v)) hrest, h₁⟩
    | buffer b =>
      have hbound : (bindArgs (t.bind b).2 r).2.slotOf? b = some (t.bind b).1 := by
        rw [snd_bindArgs]
        exact SlotTable.slotOf?_bindAll_of_some (SlotTable.slotOf?_bind t b)
      have hname : ρ b = (T.get (t.bind b).1).host := hρ b _ hbound
      obtain ⟨hfirst, h₁⟩ := h.bind ht hT (h := b) fun s hs => hgrow s <| by
        show (bindArgs (t.bind b).2 r).2.Has s
        rw [snd_bindArgs]
        exact (SlotTable.grows_bindAll _ _).has hs
      obtain ⟨hrest, h₂⟩ := ih h₁ (ht.bind b) hgrow hρ
      show (TaskArg.slot (t'.bind (ρ b)).1 :: (bindArgs (t'.bind (ρ b)).2 _).1 =
        TaskArg.slot (t.bind b).1 :: _) ∧ SlotTable.Shadows T _ (bindArgs (t'.bind (ρ b)).2 _).2
      rw [hname, hfirst, hrest]
      exact ⟨rfl, h₂⟩

theorem boundSlots_cons (g : Graph) (node : String) (b : HostId) (r : List HostId) :
    g.boundSlots node (b :: r) =
      match g.table.slotOf? b with
      | some s => (g.boundSlots node r).map (s :: ·)
      | none => .error (.unboundBuffer node b) := by
  rw [boundSlots, boundSlots, List.mapM_cons]
  rcases g.table.slotOf? b with _ | s
  · rfl
  · dsimp only
    rcases List.mapM _ r with e | slots <;> rfl

/-- Buffers that all have slots have one each. -/
theorem slotOf?_of_boundSlots {g : Graph} {node : String} {bs : List HostId}
    {slots : List SlotId} (h : g.boundSlots node bs = .ok slots) {b : HostId} (hb : b ∈ bs) :
    ∃ s, g.table.slotOf? b = some s := by
  induction bs generalizing slots with
  | nil => cases hb
  | cons b₀ r ih =>
    rw [boundSlots_cons] at h
    rcases hslot : g.table.slotOf? b₀ with _ | s <;> rw [hslot] at h
    · cases h
    · dsimp only at h
      rcases hr : g.boundSlots node r with e | slots' <;> rw [hr] at h
      · cases h
      · rcases List.mem_cons.mp hb with rfl | hb
        · exact ⟨s, hslot⟩
        · exact ih hr hb

/-- Where buffers all have slots, the others have the same slots. -/
theorem boundSlots_rename {g g' : Graph} {node : String} {bs : List HostId} {slots : List SlotId}
    (h : SlotTable.Shadows T g.table g'.table) (ht : g.table.Inverse)
    (hρ : SlotTable.Renames T g.table ρ) (hb : g.boundSlots node bs = .ok slots) :
    g'.boundSlots node (bs.map ρ) = .ok slots := by
  induction bs generalizing slots with
  | nil => exact hb
  | cons b r ih =>
    rw [boundSlots_cons] at hb
    rw [List.map_cons, boundSlots_cons]
    rcases hslot : g.table.slotOf? b with _ | s <;> rw [hslot] at hb
    · cases hb
    · have hslot' : g'.table.slotOf? (ρ b) = some s := by
        rw [hρ b s hslot]
        exact h.slotOf? ht hslot
      rw [hslot']
      dsimp only at hb ⊢
      rcases hr : g.boundSlots node r with e | slots' <;> rw [hr] at hb
      · cases hb
      · rw [ih hr]
        exact hb

/-- An argument that is accepted is accepted with another buffer of the same type that has the
same slot. -/
theorem checkArg_rename {s t : Site} {node : String} {index : Nat} {p : Param} {a : Arg}
    (hslot : ∀ b slot, s.graph.table.slotOf? b = some slot →
      t.graph.table.slotOf? (ρ b) = some slot)
    (htype : ∀ b, a = .buffer b → (t.machine.hosts.get (ρ b)).type = (s.machine.hosts.get b).type)
    (hc : checkArg s node index p a = .ok ()) :
    checkArg t node index p (a.rename ρ) = .ok () := by
  cases p with
  | scalar type => cases a <;> exact hc
  | buffer type access =>
    cases a with
    | scalar v => exact hc
    | buffer b =>
      rw [Arg.rename]
      rw [checkArg] at hc ⊢
      rw [htype b rfl]
      split at hc
      · cases hc
      · rename_i ht
        rw [if_neg ht]
        split at hc
        · cases hc
        · rename_i hread
          rcases hs : s.graph.table.slotOf? b with _ | slot
          · rw [hs] at hread
            simp only [Option.isNone_none, Bool.and_true] at hread
            simp [hread]
          · simp [hslot b slot hs]

theorem checkArgs_rename {s t : Site} {node : String} {k : Kernel} {args : List Arg}
    (hslot : ∀ b slot, s.graph.table.slotOf? b = some slot →
      t.graph.table.slotOf? (ρ b) = some slot)
    (htype : ∀ b ∈ argBuffers args,
      (t.machine.hosts.get (ρ b)).type = (s.machine.hosts.get b).type)
    (hc : checkArgs s node k args = .ok ()) :
    checkArgs t node k (args.map (.rename ρ)) = .ok () := by
  -- the number of the first argument changes on the way, so the recursion is stated for all of them
  have hfrom : ∀ (ps : List Param) (args : List Arg) (first : Nat),
      (∀ b, .buffer b ∈ args → (t.machine.hosts.get (ρ b)).type = (s.machine.hosts.get b).type) →
      checkArgsFrom s node first ps args = .ok () →
      checkArgsFrom t node first ps (args.map (.rename ρ)) = .ok () := by
    intro ps
    induction ps with
    | nil => intro args first _ _; cases args <;> rfl
    | cons p ps ih =>
      intro args first htype hc
      cases args with
      | nil => rfl
      | cons a r =>
        rw [checkArgsFrom] at hc
        rcases ha : checkArg s node first p a with e | u <;> rw [ha] at hc
        · cases hc
        · rw [List.map_cons, checkArgsFrom,
            checkArg_rename hslot (fun b hb => htype b (hb ▸ List.mem_cons_self)) ha]
          exact ih r (first + 1) (fun b hb => htype b (List.mem_cons_of_mem _ hb)) hc
  rw [checkArgs] at hc ⊢
  rw [List.length_map]
  split at hc
  · cases hc
  · rename_i hlen
    rw [if_neg hlen]
    exact hfrom _ _ _ (fun b hb => htype b (List.mem_filterMap.mpr ⟨_, hb, rfl⟩)) hc

end Graph

namespace Command

/-- The same call with other buffers. -/
def rename (ρ : HostId → HostId) : Command → Command
  | streamIn bs => streamIn (bs.map ρ)
  | copyIn bs => copyIn (bs.map ρ)
  | task name k args => task name k (args.map (.rename ρ))
  | streamOut bs => streamOut (bs.map ρ)
  | barrier => barrier
  | rebind old new => rebind (ρ old) (ρ new)
  | warmup => warmup
  | execute => execute
  | synchronize bs => synchronize (bs.map ρ)
  | clearProfile => clearProfile
  | dispose => dispose

/-- Carry out calls one after the other, whether they succeed or not. -/
def runAll : List Command → Site → List (Except GraphError Nat) × Site
  | [], s => ([], s)
  | c :: cs, s =>
    let (o, s) := c.run s
    let (os, s) := runAll cs s
    (o :: os, s)

theorem buffers_rename (ρ : HostId → HostId) (c : Command) :
    (c.rename ρ).buffers = c.buffers.map ρ := by
  cases c with
  | task name k args => exact Graph.argBuffers_rename ρ args
  | _ => rfl

/-- A call stays valid when its buffers are replaced by buffers that were made. -/
theorem Valid.rename {κ : KernelId → Kernel} {m m' : HostMemory} {c : Command}
    {ρ : HostId → HostId} (h : c.Valid κ m) (hρ : ∀ b ∈ c.buffers, m'.Has (ρ b)) :
    (c.rename ρ).Valid κ m' where
  made b hb := by
    rw [buffers_rename] at hb
    obtain ⟨b', hb', rfl⟩ := List.mem_map.mp hb
    exact hρ b' hb'
  known name k args he := by
    cases c with
    | task name' k' args' =>
      cases he
      exact h.known _ _ _ rfl
    | _ => cases he

end Command

/-- The buffers that are passed have slots afterwards. -/
theorem Site.Adds.slotOf? {s : Site} {c : Command} {a : Action} {t : SlotTable}
    (h : s.Adds c a t) {b : HostId} (hb : b ∈ c.buffers) : ∃ slot, t.slotOf? b = some slot := by
  have hbound : ∀ bs : List HostId, b ∈ bs →
      ∃ slot, (s.graph.table.bindAll bs).2.slotOf? b = some slot := by
    intro bs hb
    obtain ⟨i, hi⟩ := List.mem_iff_getElem?.mp hb
    obtain ⟨slot, -, hslot⟩ := SlotTable.getElem?_bindAll (t := s.graph.table) hi
    exact ⟨slot, hslot⟩
  cases h with
  | streamIn buffers => exact hbound _ hb
  | copyIn buffers => exact hbound _ hb
  | task name node k args hcheck =>
    rw [Graph.snd_bindArgs]
    exact hbound _ hb
  | streamOut node buffers slots hslots => exact Graph.slotOf?_of_boundSlots hslots hb
  | barrier => exact absurd hb List.not_mem_nil

/-- A call that is to add a node either fails and changes nothing, or succeeds and leaves the
machine alone. In the latter case the buffers that were passed have slots. -/
theorem Command.adds_inv {c : Command} {s s' : Site} {o : Except GraphError Nat}
    (hadds : c.adds = true) (h : c.run s = (o, s')) :
    (∃ e, o = .error e ∧ s' = s) ∨ o = .ok 0 ∧ s'.machine = s.machine ∧
      ∀ b ∈ c.buffers, ∃ slot, s'.graph.table.slotOf? b = some slot := by
  rcases run_of_adds hadds s with ⟨e, hrun⟩ | ⟨name, a, t, hadd, hrun⟩ <;> rw [hrun] at h <;>
    cases h
  · exact .inl ⟨e, rfl, rfl⟩
  · exact .inr ⟨rfl, rfl, fun _ => hadd.slotOf?⟩

end Offload
