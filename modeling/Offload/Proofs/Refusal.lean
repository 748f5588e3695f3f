import Offload.Proofs.Fleet

/-!
# Refused calls

A call that adds a node or exchanges a buffer looks at everything that it is given before it does
anything, and so does a call that copies a list of buffers to the host. When such a call is
refused, nothing has happened: no argument was bound, no memory was dropped, and no buffer of the
list was copied.

That the device was not even asked for anything shows in that the call would have been refused in
the same way with any other device, which it would have left alone as well.

* `Command.Refused` — a call is refused.
* `Command.run_of_refused` — it fails in the same way whatever the device is like, and leaves
  everything as it was.
* `Fleet.refused_is_atomic` — what that means for everybody else.
-/

namespace Offload

open Step Offload.Graph

/-- The graph and host memory with another device and other programs. -/
def Site.withContext (s : Site) (x : Context) : Site := ⟨⟨s.machine.hosts, x⟩, s.graph⟩

namespace Command

/-- The call looks at what it is given, and then changes the graph unless it fails. -/
def careful : Command → Bool
  | rebind _ _ | clearProfile => true
  | c => c.adds

/-- The call is refused. -/
inductive Refused (s : Site) : Command → Prop where
  /-- it fails when it looks at what it is given -/
  | failed {c : Command} {e : GraphError} (hc : c.careful = true) (h : (c.run s).1 = .error e) :
    Refused s c
  /-- a buffer that is to be copied to the host has no slot -/
  | unbound {buffers : List HostId} {b : HostId} (hb : b ∈ buffers)
    (h : s.graph.table.slotOf? b = none) : Refused s (.synchronize buffers)
  /-- the graph was disposed of -/
  | disposed {c : Command} (hc : c ≠ .dispose) (h : s.graph.phase = .disposed) : Refused s c

end Command

/-! ### What is looked at -/

namespace Graph

variable {s : Site}

/-- The arguments of a task are checked by the host alone. -/
theorem checkArgsFrom_withContext (s : Site) (x : Context) (node : String) (i : Nat)
    (ps : List Param) (as : List Arg) :
    checkArgsFrom (s.withContext x) node i ps as = checkArgsFrom s node i ps as := by
  induction ps generalizing i as with
  | nil => rfl
  | cons p ps ih =>
    cases as with
    | nil => rfl
    | cons a as =>
      rw [checkArgsFrom, checkArgsFrom, ih]
      rfl

theorem checkArgs_withContext (s : Site) (x : Context) (node : String) (k : Kernel)
    (args : List Arg) : checkArgs (s.withContext x) node k args = checkArgs s node k args := by
  rw [checkArgs, checkArgs, checkArgsFrom_withContext]

/-- Buffers one of which has no slot are refused, and the first such one is named. -/
theorem boundSlots_of_unbound {g : Graph} {buffers : List HostId} {b : HostId} (node : String)
    (hb : b ∈ buffers) (h : g.table.slotOf? b = none) :
    ∃ b', g.boundSlots node buffers = .error (.unboundBuffer node b') := by
  induction buffers with
  | nil => cases hb
  | cons b₀ r ih =>
    rw [boundSlots, List.mapM_cons]
    rcases h₀ : g.table.slotOf? b₀ with _ | slot
    · exact ⟨b₀, rfl⟩
    · have hmem : b ∈ r := by
        rcases List.mem_cons.mp hb with rfl | hmem
        · rw [h] at h₀
          cases h₀
        · exact hmem
      obtain ⟨b', hb'⟩ := ih hmem
      rw [boundSlots] at hb'
      rw [hb']
      exact ⟨b', rfl⟩

end Graph

/-- An exchange is refused by the host alone. -/
theorem Workspace.rebind_of_refused {w : Workspace} {old new : HostId} {e : DeviceError}
    (h : (rebind old new w).1 = .error e) (x : Context) :
    rebind old new ⟨⟨w.hosts, x⟩, w.table⟩ = (.error e, ⟨⟨w.hosts, x⟩, w.table⟩) := by
  rw [rebind_apply] at h ⊢
  dsimp only at h ⊢
  rcases hold : w.table.slotOf? old with _ | slot <;> rw [hold] at h <;> dsimp only at h ⊢
  · cases h
    rfl
  · by_cases hbound : new ≠ old ∧ (w.table.slotOf? new).isSome
    · rw [if_pos hbound] at h ⊢
      cases h
      rfl
    · rw [if_neg hbound] at h ⊢
      have hhost : host ⟨⟨w.hosts, x⟩, w.table⟩ slot = w.host slot := rfl
      rw [hhost]
      by_cases htype : (w.hosts.get new).type ≠ (w.host slot).type
      · rw [if_pos htype] at h ⊢
        cases h
        rfl
      · rw [if_neg htype] at h
        cases h

namespace Command

variable {s : Site}

/-! ### Calls that are refused -/

/-- A call that fails when it looks at what it is given does not look at the device. -/
theorem run_of_failed {c : Command} {e : GraphError} (hc : c.careful = true)
    (hlive : s.graph.phase ≠ .disposed) (h : (c.run s).1 = .error e) (x : Context) :
    c.run (s.withContext x) = (.error e, s.withContext x) := by
  have hlive' : (s.withContext x).graph.phase ≠ .disposed := hlive
  cases c with
  | task name k args =>
    rw [run, bind_pure_apply, Graph.task_apply, if_neg hlive] at h
    rw [run, bind_pure_apply, Graph.task_apply, if_neg hlive', checkArgs_withContext]
    have hnode : (s.withContext x).graph.qualified name = s.graph.qualified name := rfl
    rw [hnode]
    rcases hcheck : checkArgs s (s.graph.qualified name) k args with e' | _ <;>
      rw [hcheck] at h <;> cases h
    rfl
  | streamOut bs =>
    rw [run, bind_pure_apply, Graph.streamOut_apply, if_neg hlive] at h
    rw [run, bind_pure_apply, Graph.streamOut_apply, if_neg hlive']
    have hgraph : (s.withContext x).graph = s.graph := rfl
    rw [hgraph]
    rcases hslots : s.graph.boundSlots (s.graph.qualified (s.graph.nextName .streamOut)) bs
      with e' | slots <;> rw [hslots] at h <;> cases h
    rfl
  | rebind old new =>
    rw [run, bind_pure_apply, Graph.rebind_apply, if_neg hlive] at h
    rw [run, bind_pure_apply, Graph.rebind_apply, if_neg hlive']
    rcases hrebind : Workspace.rebind old new s.workspace with ⟨e' | slot, w⟩ <;>
      rw [hrebind] at h <;> cases h
    have hrefused := Workspace.rebind_of_refused (congrArg Prod.fst hrebind) x
    have hrebind' : Workspace.rebind old new (s.withContext x).workspace = _ := hrefused
    rw [hrebind']
    rfl
  | streamIn bs =>
    rw [run, bind_pure_apply, Graph.streamIn, Graph.addBinding_apply, if_neg hlive] at h
    cases h
  | copyIn bs =>
    rw [run, bind_pure_apply, Graph.copyIn, Graph.addBinding_apply, if_neg hlive] at h
    cases h
  | barrier =>
    rw [run, bind_pure_apply, Graph.barrier_apply, if_neg hlive] at h
    cases h
  | clearProfile =>
    rw [run, bind_pure_apply, Graph.clearProfile_apply, if_neg hlive] at h
    cases h
  | _ => cases hc

/-- A list of buffers one of which has no slot is not copied, not even in part. -/
theorem synchronize_of_unbound {buffers : List HostId} {b : HostId} (hb : b ∈ buffers)
    (h : s.graph.table.slotOf? b = none) (hlive : s.graph.phase ≠ .disposed) :
    ∃ b', ∀ x, (synchronize buffers).run (s.withContext x) =
      (.error (.unboundBuffer (s.graph.qualified "sync_objects") b'), s.withContext x) := by
  obtain ⟨b', hb'⟩ := boundSlots_of_unbound (s.graph.qualified "sync_objects") hb h
  refine ⟨b', fun x => ?_⟩
  have hlive' : (s.withContext x).graph.phase ≠ .disposed := hlive
  have hslots : (s.withContext x).graph.boundSlots
      ((s.withContext x).graph.qualified "sync_objects") buffers = _ := hb'
  rw [run, bind_pure_apply, Graph.synchronize, ensureLive_bind, if_neg hlive', bind_apply,
    get_apply]
  dsimp only
  rw [hslots]
  rfl

/-- A call that is refused fails in the same way whatever the device is like, and leaves
everything as it was. -/
theorem run_of_refused {c : Command} (h : c.Refused s) :
    ∃ e, ∀ x, c.run (s.withContext x) = (.error e, s.withContext x) := by
  by_cases hd : s.graph.phase = .disposed
  · refine ⟨.disposed s.graph.name, fun x => refused_of_disposed (s := s.withContext x) hd ?_⟩
    rintro rfl
    cases h with
    | failed hc => cases hc
    | disposed hc => exact hc rfl
  · cases h with
    | failed hc h => exact ⟨_, run_of_failed hc hd h⟩
    | unbound hb h =>
      obtain ⟨b', hrun⟩ := synchronize_of_unbound hb h hd
      exact ⟨_, hrun⟩
    | disposed _ h => exact absurd h hd

end Command

namespace Fleet

variable {ι δ : Type} [DecidableEq ι] [DecidableEq δ] {f : Fleet ι δ} {u : ι} {c : Command}

/-- What is put back as it was makes no difference. -/
theorem setSite_site (f : Fleet ι δ) (u : ι) : f.setSite u (f.site u) = f := by
  simp only [setSite, site, Function.update_eq_self]

/-- A call that is refused leaves the graph, all other graphs, host memory and all devices as they
were. It did not ask the device for anything: with any other device in its place it fails in the
same way, and leaves that device as it was. -/
theorem refused_is_atomic (h : c.Refused (f.site u)) :
    ∃ e, (Request.call u c).perform f = (.error e, f) ∧
      ∀ x : Context, c.run ((f.site u).withContext x) = (.error e, (f.site u).withContext x) := by
  obtain ⟨e, hrun⟩ := Command.run_of_refused h
  refine ⟨e, ?_, hrun⟩
  rw [perform_call (hrun (f.site u).machine.context)]
  exact congrArg (Prod.mk _) (setSite_site f u)

/-- A buffer that is on the device is not copied when the next one in the list has no slot. -/
theorem refused_is_atomic_listed :
    let f := (performAll [.call () (.streamIn [⟨0⟩]), .call () .execute]
      (single "g" none [.filled (.scalar .uint8) 2 (7 : UInt8), .zeroed (.scalar .uint8) 3])).2
    (Command.synchronize [⟨0⟩, ⟨1⟩]).Refused (f.site ()) ∧
      ∃ e, (Request.call () (.synchronize [⟨0⟩, ⟨1⟩])).perform f = (.error e, f) := by
  intro f
  have hrefused : (Command.synchronize [⟨0⟩, ⟨1⟩]).Refused (f.site ()) :=
    .unbound (b := ⟨1⟩) (List.mem_cons_of_mem _ List.mem_cons_self) rfl
  obtain ⟨e, hperform, -⟩ := refused_is_atomic hrefused
  exact ⟨hrefused, e, hperform⟩

end Fleet

end Offload
