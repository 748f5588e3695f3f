import Offload.Proofs.Command

/-!
# The life of a graph

How far a graph has come depends on nothing but what was asked of it and how that ended. Where and
on what machine it was asked makes no difference beyond that: the machine may be a different one
for every call.

* `Use` — what a caller may do with a graph, and `Use.run`, how it ends.
* `Phase.next`, `Phase.after` — how far a graph has come, by its log alone.
* `Graph.Life` — what ties a graph to its log; `Graph.Life.step` keeps it.
* `Graph.lifecycle` — the phase, the number of runs and the reports for every log, and what a graph
  does that was disposed of.
-/

namespace Offload

open Step

/-! ### What may be done with a graph -/

/-- What a caller may do with a graph. -/
inductive Use where
  /-- a call -/
  | call (c : Command)
  /-- have the samples of the profile -/
  | samples
  /-- have the profile as text -/
  | profileText

/-- What a graph returns. -/
inductive Reply where
  /-- the number of a run, and zero where there is none -/
  | number (n : Nat)
  /-- samples -/
  | samples (xs : Array Sample)
  /-- a text, given what the clock has measured -/
  | text (x : (Nat → Timing) → String)

/-- Carry out what is asked. -/
def Use.run : Use → Step GraphError Site Reply
  | call c => Reply.number <$> c.run
  | samples => Reply.samples <$> Graph.samples
  | profileText => Reply.text <$> Graph.profileText

/-- What was asked of a graph, and how it ended. -/
structure Entry where
  /-- what was asked -/
  use : Use
  /-- how it ended -/
  outcome : Except GraphError Reply

namespace Entry

/-- The graph was to be disposed of. -/
def disposes : Entry → Bool
  | ⟨.call .dispose, _⟩ => true
  | _ => false

/-- The graph was to be run. -/
def executes : Entry → Bool
  | ⟨.call .execute, _⟩ => true
  | _ => false

/-- Memory was allocated and kernels were compiled in advance. -/
def warms : Entry → Bool
  | ⟨.call .warmup, .ok _⟩ => true
  | _ => false

/-- A node was added. -/
def adds : Entry → Bool
  | ⟨.call c, .ok _⟩ => c.adds
  | _ => false

/-- The number that a successful run reported. -/
def report? : Entry → Option Nat
  | ⟨.call .execute, .ok (.number n)⟩ => some n
  | _ => none

/-- What fails adds no node. -/
theorem adds_error (u : Use) (e : GraphError) : adds ⟨u, .error e⟩ = false := by
  cases u <;> rfl

/-- What fails reports nothing. -/
theorem report?_error (u : Use) (e : GraphError) : report? ⟨u, .error e⟩ = none := by
  cases u with
  | call c => cases c <;> rfl
  | _ => rfl

/-- Other calls add no nodes, whatever comes of them. -/
theorem adds_call {c : Command} (h : c.adds = false) (o : Except GraphError Reply) :
    adds ⟨.call c, o⟩ = false := by
  cases o with
  | ok r => exact h
  | error e => rfl

end Entry

namespace Phase

/-- How far a graph has come, by its log alone. -/
def after (log : List Entry) : Phase :=
  if log.any Entry.disposes then disposed
  else if log.any Entry.executes then idle
  else if log.any Entry.warms then warmed
  else if log.any Entry.adds then built
  else unbuilt

/-- How far a graph has come after one more entry. -/
def next (p : Phase) (e : Entry) : Phase :=
  if p = disposed ∨ e.disposes then disposed
  else if p = idle ∨ e.executes then idle
  else if p = warmed ∨ e.warms then warmed
  else if p = built ∨ e.adds then built
  else unbuilt

theorem after_append (log : List Entry) (e : Entry) : after (log ++ [e]) = (after log).next e := by
  by_cases hd : log.any Entry.disposes <;> by_cases he : log.any Entry.executes <;>
    by_cases hw : log.any Entry.warms <;> by_cases ha : log.any Entry.adds <;>
    simp [after, next, hd, he, hw, ha]

theorem next_ne_executing (p : Phase) (e : Entry) : p.next e ≠ executing := by
  rw [next]
  repeat' split
  all_goals exact noConfusion

/-- A graph is never found running. -/
theorem after_ne_executing (log : List Entry) : after log ≠ executing := by
  rw [after]
  repeat' split
  all_goals nofun

end Phase

/-! ### One call -/

/-- What one call makes of a graph. -/
structure Graph.Lives (g : Graph) (e : Entry) (g' : Graph) : Prop where
  /-- the name stays -/
  name : g'.name = g.name
  /-- how far the graph has come -/
  phase : g.phase ≠ .executing → g'.phase = g.phase.next e
  /-- a node is added if that was asked with success -/
  nodes : g'.nodes.length = g.nodes.length + if e.adds then 1 else 0
  /-- a run is counted if it reports its number -/
  runs : e.report? = none ∧ g'.runs = g.runs ∨
    e.report? = some (g.runs + 1) ∧ g'.runs = g.runs + 1

namespace Use

variable {s : Site}

theorem run_call (c : Command) (s : Site) :
    (call c).run s = ((c.run s).1.map .number, (c.run s).2) := by
  rw [run, map_apply]

/-- Looking at the profile changes nothing. -/
theorem run_samples (s : Site) : samples.run s =
    (if s.graph.phase = .disposed then .error (.disposed s.graph.name)
      else .ok (.samples s.graph.profile.samples), s) := by
  rw [run, map_apply, Graph.samples, Graph.ensureLive_bind]
  split <;> rfl

theorem run_profileText (s : Site) : profileText.run s =
    (if s.graph.phase = .disposed then .error (.disposed s.graph.name)
      else .ok (.text (s.graph.profile.text s.graph.name)), s) := by
  rw [run, map_apply, Graph.profileText, Graph.ensureLive_bind]
  split <;> rfl

/-- A graph that was disposed of refuses everything but to be disposed of once more. -/
theorem run_of_disposed (h : s.graph.phase = .disposed) {u : Use} (hu : u ≠ .call .dispose) :
    u.run s = (.error (.disposed s.graph.name), s) := by
  cases u with
  | call c =>
    rw [run_call, Command.refused_of_disposed h fun hc => hu (congrArg call hc)]
    rfl
  | samples => rw [run_samples, if_pos h]
  | profileText => rw [run_profileText, if_pos h]

end Use

namespace Graph

variable {g g' : Graph} {e : Entry}

/-- An entry that is about none of it. -/
theorem Lives.of_silent (hname : g'.name = g.name) (hphase : g'.phase = g.phase)
    (hnodes : g'.nodes = g.nodes) (hruns : g'.runs = g.runs) (hd : e.disposes = false)
    (he : e.executes = false) (hw : e.warms = false) (ha : e.adds = false)
    (hr : e.report? = none) : Lives g e g' where
  name := hname
  phase hp := by
    rw [hphase]
    cases hg : g.phase <;> simp [Phase.next, hd, he, hw, ha, hg] at hp ⊢
  nodes := by
    rw [hnodes, ha]
    rfl
  runs := .inl ⟨hr, hruns⟩

/-- A graph that was disposed of stays as it is. -/
theorem Lives.of_disposed (h : g.phase = .disposed) (ha : e.adds = false)
    (hr : e.report? = none) : Lives g e g where
  name := rfl
  phase _ := by
    rw [Phase.next, if_pos (.inl h), h]
  nodes := by
    rw [ha]
    rfl
  runs := .inl ⟨hr, rfl⟩

/-- A node is added at the end. -/
theorem Lives.push {u : Use} {r : Reply} (hlive : g.phase ≠ .disposed)
    (hd : Entry.disposes ⟨u, .ok r⟩ = false) (he : Entry.executes ⟨u, .ok r⟩ = false)
    (hw : Entry.warms ⟨u, .ok r⟩ = false) (ha : Entry.adds ⟨u, .ok r⟩ = true)
    (hr : Entry.report? ⟨u, .ok r⟩ = none) (t : SlotTable) (name : String) (a : Action) :
    Lives g ⟨u, .ok r⟩ ({ g with table := t }.push name a) where
  name := rfl
  phase hp := by
    cases hg : g.phase <;> simp [Graph.push, Phase.next, hd, he, hw, ha, hg] at hlive hp ⊢
  nodes := by
    rw [ha]
    exact List.length_append
  runs := .inl ⟨hr, rfl⟩

end Graph

/-- Adding nodes is all that such a call is about. -/
theorem Command.entry_of_adds {c : Command} (h : c.adds = true) (o : Except GraphError Reply) :
    Entry.disposes ⟨.call c, o⟩ = false ∧ Entry.executes ⟨.call c, o⟩ = false ∧
      Entry.warms ⟨.call c, o⟩ = false ∧ Entry.report? ⟨.call c, o⟩ = none := by
  cases c <;> first | exact ⟨rfl, rfl, rfl, rfl⟩ | cases h

namespace Graph

/-- A call that adds nodes. -/
theorem lives_of_adds {c : Command} {s : Site} (hadds : c.adds = true)
    (hlive : s.graph.phase ≠ .disposed) :
    Lives s.graph ⟨.call c, (c.run s).1.map .number⟩ (c.run s).2.graph := by
  rcases Command.run_of_adds hadds s with ⟨e, hrun⟩ | ⟨name, a, t, -, hrun⟩ <;> rw [hrun]
  · obtain ⟨hd, he, hw, hr⟩ := Command.entry_of_adds hadds (.error e)
    exact .of_silent rfl rfl rfl rfl hd he hw rfl hr
  · obtain ⟨hd, he, hw, hr⟩ := Command.entry_of_adds hadds (.ok (.number 0))
    exact .push hlive hd he hw hadds hr t name a

theorem lives_warmup {s : Site} (hlive : s.graph.phase ≠ .disposed) :
    Lives s.graph ⟨.call .warmup, (Command.warmup.run s).1.map .number⟩
      (Command.warmup.run s).2.graph := by
  have hslots := Site.OnlySlots.warmNodes s.graph.nodes s
  rw [Command.run, bind_pure_apply, warmup_apply, if_neg hlive, bind_apply]
  rcases h : Step.each s.graph.nodes warmNode s with ⟨e | u, s'⟩ <;> rw [h] at hslots <;>
    rw [Site.OnlySlots] at hslots
  · exact .of_silent (by rw [hslots]) (by rw [hslots]) (by rw [hslots]) (by rw [hslots])
      rfl rfl rfl rfl rfl
  · simp only [update, modify_apply]
    rw [hslots]
    constructor
    case name => split <;> rfl
    case phase =>
      intro hp
      cases hg : s.graph.phase <;>
        simp [Phase.next, Entry.disposes, Entry.executes, Entry.warms, Except.map, hg] at hlive hp ⊢
    case nodes => split <;> rfl
    case runs => exact .inl ⟨rfl, by split <;> rfl⟩

theorem lives_execute {s : Site} (hlive : s.graph.phase ≠ .disposed) :
    Lives s.graph ⟨.call .execute, (Command.execute.run s).1.map .number⟩
      (Command.execute.run s).2.graph := by
  have hidle : ∀ o, s.graph.phase.next ⟨.call .execute, o⟩ = .idle := by
    intro o
    rw [Phase.next, if_neg (by simp [hlive, Entry.disposes]), if_pos (.inr rfl)]
  have hall := Site.OnlyRecords.runAll (s.graph.runs + 1)
    (s.withGraph ({ · with phase := .executing }))
  rw [Command.run, execute_apply, if_neg hlive]
  rcases h : runAll (s.graph.runs + 1) (s.withGraph ({ · with phase := .executing }))
    with ⟨e | u, s'⟩ <;> rw [h] at hall <;> rw [Site.OnlyRecords] at hall <;>
    simp only [Site.withGraph, Except.map] at hall ⊢ <;> rw [hall]
  · exact ⟨rfl, fun _ => (hidle _).symm, rfl, .inl ⟨rfl, rfl⟩⟩
  · exact ⟨rfl, fun _ => (hidle _).symm, rfl, .inr ⟨rfl, rfl⟩⟩

/-- Whatever is asked of a graph, how far it has come after that depends on how far it had come,
what was asked, and how that ended. -/
theorem lives_run (u : Use) (s : Site) : Lives s.graph ⟨u, (u.run s).1⟩ (u.run s).2.graph := by
  by_cases hlive : s.graph.phase = .disposed
  · by_cases hu : u = .call .dispose
    · rw [hu, Use.run_call, Command.dispose_of_disposed hlive]
      exact .of_disposed hlive rfl rfl
    · rw [Use.run_of_disposed hlive hu]
      exact .of_disposed hlive (Entry.adds_error u _) (Entry.report?_error u _)
  cases u with
  | samples =>
    rw [Use.run_samples, if_neg hlive]
    exact .of_silent rfl rfl rfl rfl rfl rfl rfl rfl rfl
  | profileText =>
    rw [Use.run_profileText, if_neg hlive]
    exact .of_silent rfl rfl rfl rfl rfl rfl rfl rfl rfl
  | call c =>
    rw [Use.run_call]
    rcases hadds : c.adds
    case true => exact lives_of_adds hadds hlive
    cases c with
    | warmup => exact lives_warmup hlive
    | execute => exact lives_execute hlive
    | rebind old new =>
      rw [Command.run, bind_pure_apply, rebind_apply, if_neg hlive]
      split <;> exact .of_silent rfl rfl rfl rfl rfl rfl rfl rfl rfl
    | synchronize buffers =>
      have hslots := Site.OnlySlots.synchronize buffers s
      rw [Site.OnlySlots] at hslots
      rw [Command.run, bind_pure_apply, hslots]
      exact .of_silent rfl rfl rfl rfl rfl rfl rfl (Entry.adds_call hadds _) rfl
    | clearProfile =>
      rw [Command.run, bind_pure_apply, clearProfile_apply, if_neg hlive]
      exact .of_silent rfl rfl rfl rfl rfl rfl rfl rfl rfl
    | dispose =>
      simp only [Command.run, dispose, if_neg hlive]
      exact ⟨rfl, fun _ => (if_pos (.inr rfl)).symm, rfl, .inl ⟨rfl, rfl⟩⟩
    | _ => cases hadds

end Graph

/-! ### All calls -/

namespace Graph

/-- What was asked of a graph on what machine, one call after the other: the log, and the graph
that it leads to. -/
def lead (g : Graph) : List (Machine × Use) → List Entry × Graph
  | [] => ([], g)
  | (m, u) :: r =>
    let (o, s) := u.run ⟨m, g⟩
    let (log, g) := lead s.graph r
    (⟨u, o⟩ :: log, g)

/-- The numbers that successful runs reported, the first one first. -/
def reports (log : List Entry) : List Nat := log.filterMap Entry.report?

/-- A graph is what its log says. -/
structure Life (name : String) (log : List Entry) (g : Graph) : Prop where
  /-- the name that it was given -/
  name : g.name = name
  /-- how far it has come -/
  phase : g.phase = .after log
  /-- a node for every call that added one -/
  nodes : g.nodes.length = log.countP Entry.adds
  /-- a run for every call that reported one -/
  runs : g.runs = (reports log).length
  /-- runs are reported in order -/
  reports : reports log = List.range' 1 g.runs

namespace Life

variable {name : String} {log : List Entry} {g g' : Graph} {e : Entry}

theorem new (name : String) : Life name [] (.empty name) := ⟨rfl, rfl, rfl, rfl, rfl⟩

/-- One more call keeps what ties a graph to its log. -/
theorem step (h : Life name log g) (he : Lives g e g') : Life name (log ++ [e]) g' where
  name := he.name.trans h.name
  phase := by
    have hp : g.phase ≠ .executing := h.phase ▸ Phase.after_ne_executing log
    rw [he.phase hp, h.phase, Phase.after_append]
  nodes := by
    rw [he.nodes, h.nodes, List.countP_append, List.countP_singleton]
  runs := by
    have hruns := h.runs
    rw [Graph.reports] at hruns ⊢
    rw [List.filterMap_append, List.length_append, ← hruns]
    rcases he.runs with ⟨hr, hg⟩ | ⟨hr, hg⟩ <;> simp [hr, hg]
  reports := by
    have hreports := h.reports
    rw [Graph.reports] at hreports ⊢
    rw [List.filterMap_append, hreports]
    rcases he.runs with ⟨hr, hg⟩ | ⟨hr, hg⟩ <;> simp [hr, hg, List.range'_concat, Nat.add_comm]

/-- A graph goes on being what its log says. -/
theorem lead (h : Life name log g) (visits : List (Machine × Use)) :
    Life name (log ++ (g.lead visits).1) (g.lead visits).2 := by
  induction visits generalizing log g with
  | nil =>
    rw [Graph.lead, List.append_nil]
    exact h
  | cons v r ih =>
    rw [Graph.lead, List.append_cons]
    exact ih (h.step (lives_run v.2 ⟨v.1, g⟩))

end Life

/-- What was asked of a graph and how it ended says how far the graph has come, how many nodes it
has and how often it was run with success, which is what the last such run has reported. Whatever
is asked of it once it was disposed of is refused, on any machine, and leaves graph, host memory and
device alone; only that it may be disposed of once more, which does nothing. -/
theorem lifecycle (name : String) (visits : List (Machine × Use)) :
    let log := ((empty name).lead visits).1
    let g := ((empty name).lead visits).2
    g.phase = .after log ∧ g.phase ≠ .executing ∧ g.nodes.length = log.countP Entry.adds ∧
      g.runs = (reports log).length ∧ (∀ n, (reports log).getLast? = some n → n = g.runs) ∧
      (log.any Entry.disposes →
        (∀ (m : Machine) (u : Use), u ≠ .call .dispose →
          u.run ⟨m, g⟩ = (.error (.disposed name), ⟨m, g⟩)) ∧
        ∀ m : Machine, (Use.call .dispose).run ⟨m, g⟩ = (.ok (.number 0), ⟨m, g⟩)) := by
  intro log g
  have h : Life name log g := (Life.new name).lead visits
  refine ⟨h.phase, h.phase ▸ Phase.after_ne_executing log, h.nodes, h.runs, ?_, ?_⟩
  · intro n hn
    rw [h.reports] at hn
    rcases hruns : g.runs with _ | k <;> rw [hruns] at hn
    · cases hn
    · rw [List.range'_1_concat, List.getLast?_concat] at hn
      exact (Option.some.inj hn).symm.trans (Nat.add_comm 1 k)
  · intro hd
    have hphase : g.phase = .disposed := by rw [h.phase, Phase.after, if_pos hd]
    refine ⟨fun m u hu => ?_, fun m => ?_⟩
    · rw [Use.run_of_disposed (s := ⟨m, g⟩) hphase hu, h.name]
    · rw [Use.run_call, Command.dispose_of_disposed (s := ⟨m, g⟩) hphase]
      rfl

/-- A graph that is warmed up in vain for want of memory, runs once there is memory, and is disposed
of. It refuses to be run again. -/
theorem lifecycle_disposed :
    let small : Machine :=
      ⟨⟨#[.filled (.scalar .uint8) 2 (7 : UInt8)]⟩, .ofDevice (.cpu (some 1) Pool.defaultKeep)⟩
    let large : Machine :=
      ⟨⟨#[.filled (.scalar .uint8) 2 (7 : UInt8)]⟩, .ofDevice (.cpu none Pool.defaultKeep)⟩
    let visits := [(small, .call (.streamIn [⟨0⟩])), (small, .call .warmup),
      (large, .call .execute), (large, .call .dispose)]
    let g := ((empty "g").lead visits).2
    g.phase = .disposed ∧ g.runs = 1 ∧
      (Use.call .execute).run ⟨large, g⟩ = (.error (.disposed "g"), ⟨large, g⟩) := by
  intro small large visits g
  obtain ⟨hphase, -, -, hruns, -, hend⟩ := lifecycle "g" visits
  exact ⟨hphase.trans (by decide), hruns.trans (by decide), (hend (by decide)).1 large _ nofun⟩

end Graph

end Offload
