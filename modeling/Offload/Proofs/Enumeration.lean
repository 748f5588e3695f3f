import Mathlib.Control.Monad.Basic
import Offload.Proofs.Reach

/-!
# The points that a launch visits

While a kernel goes through its grid a log can be kept of the points that come up. The log has the
points with the numbers 0, 1, 2 and so on, without a gap and none of them twice. It ends at the last
point of the grid, or at the first one whose body does not get done; what the bodies before that one
stored stays, and its error is that of the launch.

* `Step.noting` — a step that is entered in a log.
* `Grid.visited` — the points that come up on the way through a grid; `Grid.sweep_noting` says that
  nothing else changes where they are written down.
* `Device.launch_visits` — a launch runs the body of each point once and in order, up to the first
  that does not get done.
-/

namespace Offload

namespace Step

variable {ε σ α β : Type}

/-- The same step, which also enters `a` in a log. -/
def noting (a : α) (m : Step ε σ β) : Step ε (σ × List α) β := fun s =>
  let (r, t) := m s.1
  (r, (t, s.2 ++ [a]))

theorem noting_apply (a : α) (m : Step ε σ β) (s : σ) (log : List α) :
    m.noting a (s, log) = ((m s).1, ((m s).2, log ++ [a])) := rfl

variable {f : α → Step ε σ Unit} {xs : List α} {s s' : σ}

/-- Where the end of a list is reached, all its members are in the log. -/
theorem each_noting_of_ok (h : each xs f s = (.ok (), s')) (log : List α) :
    each xs (fun x => (f x).noting x) (s, log) = (.ok (), (s', log ++ xs)) := by
  induction xs generalizing s log with
  | nil =>
    cases h
    rw [List.append_nil]
    rfl
  | cons x r ih =>
    obtain ⟨u, t, hx, hr⟩ := bind_eq_ok h
    have hnoted : (f x).noting x (s, log) = (.ok (), (t, log ++ [x])) := by rw [noting_apply, hx]
    rw [each, bind_of_ok hnoted, ih hr, List.append_assoc, List.singleton_append]

/-- Where a member fails, it is the last one in the log. -/
theorem each_noting_of_error {e : ε} (h : each xs f s = (.error e, s')) :
    ∃ k x t, xs[k]? = some x ∧ each (xs.take k) f s = (.ok (), t) ∧ f x t = (.error e, s') ∧
      ∀ log, each xs (fun x => (f x).noting x) (s, log) =
        (.error e, (s', log ++ xs.take (k + 1))) := by
  obtain ⟨k, x, t, hx, hbefore, hfails⟩ := each_error h
  refine ⟨k, x, t, hx, hbefore, hfails, fun log => ?_⟩
  obtain ⟨hk, rfl⟩ := List.getElem?_eq_some_iff.mp hx
  have hsplit : xs.take k ++ xs[k] :: xs.drop (k + 1) = xs := by
    rw [List.getElem_cons_drop, List.take_append_drop]
  have hparts : each xs (fun x => (f x).noting x) =
      each (xs.take k) (fun x => (f x).noting x) >>= fun _ =>
        each (xs[k] :: xs.drop (k + 1)) fun x => (f x).noting x := by
    rw [← each_append, hsplit]
  have hnoted : (f xs[k]).noting xs[k] (t, log ++ xs.take k) =
      (.error e, (s', log ++ xs.take k ++ [xs[k]])) := by
    rw [noting_apply, hfails]
  have hlast : log ++ xs.take k ++ [xs[k]] = log ++ xs.take (k + 1) := by
    rw [List.append_assoc, List.take_append_getElem]
  rw [hparts, bind_of_ok (each_noting_of_ok hbefore log), each, bind_of_error hnoted, hlast]

end Step

open Step

/-! ### Grids -/

namespace Grid

variable {ε σ : Type}

/-- The points of a grid in the order of their numbers. -/
def items (g : Grid) : List WorkItem := (List.range g.count).map g.item

theorem length_items (g : Grid) : g.items.length = g.count := by
  rw [items, List.length_map, List.length_range]

theorem inGrid_of_mem_items {g : Grid} {i : WorkItem} (h : i ∈ g.items) :
    i.grid = g ∧ i.InGrid := by
  obtain ⟨n, hn, rfl⟩ := List.mem_map.mp h
  exact ⟨rfl, g.inGrid_item (List.mem_range.mp hn)⟩

/-- The numbers of the first points. -/
theorem map_linear_take_items (g : Grid) (n : Nat) :
    (g.items.take n).map WorkItem.linear = List.range (g.items.take n).length := by
  have hnumbers : g.items.map WorkItem.linear = List.range g.count := by
    have hid : WorkItem.linear ∘ g.item = id := funext g.linear_item
    rw [items, List.map_map, hid, List.map_id]
  rw [List.map_take, hnumbers, List.take_range, List.length_take, length_items]

/-- The way through a grid leads through its points. -/
theorem sweep_eq_each (g : Grid) (visit : WorkItem → Step ε σ Unit) :
    g.sweep visit = each g.items visit := by
  rw [sweep_eq_range, range_eq_each, items, List.range_eq_range']
  generalize List.range' 0 g.count = ns
  induction ns with
  | nil => rfl
  | cons n r ih =>
    rw [List.map_cons, each, each, ih]

/-- The points that come up on the way through a grid, as the loops come to them. -/
def visited (g : Grid) (visit : WorkItem → Step ε σ Unit) (s : σ) : List WorkItem :=
  (g.sweep (fun i => (visit i).noting i) (s, [])).2.2

variable {g : Grid} {visit : WorkItem → Step ε σ Unit} {s s' : σ}

/-- A way to the end comes to all points. -/
theorem visited_of_ok (h : g.sweep visit s = (.ok (), s')) : g.visited visit s = g.items := by
  rw [sweep_eq_each] at h
  rw [visited, sweep_eq_each, each_noting_of_ok h, List.nil_append]

/-- A way that is broken off comes to some points, of which the last one fails. -/
theorem visited_of_error {e : ε} (h : g.sweep visit s = (.error e, s')) :
    ∃ k i t, g.visited visit s = g.items.take (k + 1) ∧ g.items[k]? = some i ∧
      each (g.items.take k) visit s = (.ok (), t) ∧ visit i t = (.error e, s') := by
  rw [sweep_eq_each] at h
  obtain ⟨k, i, t, hi, hbefore, hfails, hnoted⟩ := each_noting_of_error h
  refine ⟨k, i, t, ?_, hi, hbefore, hfails⟩
  rw [visited, sweep_eq_each, hnoted, List.nil_append]

/-- Nothing changes where the points that come up are written down. -/
theorem sweep_noting (g : Grid) (visit : WorkItem → Step ε σ Unit) (s : σ) :
    g.sweep (fun i => (visit i).noting i) (s, []) =
      ((g.sweep visit s).1, ((g.sweep visit s).2, g.visited visit s)) := by
  rw [visited]
  simp only [sweep_eq_each]
  rcases h : each g.items visit s with ⟨e | u, s'⟩
  · obtain ⟨k, i, t, -, -, -, hnoted⟩ := each_noting_of_error h
    rw [hnoted]
  · rw [each_noting_of_ok h]

end Grid

/-! ### Launches -/

namespace Device

variable {d : Device} {k : Kernel} {args : List LaunchArg} {g : Grid} {locks : LockTable}

/-- The device after a launch whose last body ended in `s`. -/
def launched (d : Device) (s : Execution) : Device :=
  { (d.counted .launch).withArena s.arena with notes := s.notes }

/-- A launch that is accepted goes through its grid, and has the outcome that this has. -/
theorem launch_eq_sweep (hcall : (call .launch d).1 = .ok ()) (hcheck : k.checkArgs args = .ok ())
    (hgrid : k.grid args = .ok g) (hlocks : LockTable.acquire d.pool.arena args = .ok locks) :
    launch k args d =
      let (r, s) := g.sweep (fun i => (k.body i).run ⟨k.name, k.params, args, locks⟩)
        ⟨d.pool.arena, d.notes⟩
      ((r.mapError (Halt.toError k.name)).map fun _ => g, d.launched s) := by
  have hcounted : call .launch d = (.ok (), d.counted .launch) := by
    rw [call_apply] at hcall ⊢
    exact Prod.ext hcall rfl
  have hexecute : k.execute args g ⟨d.pool.arena, d.notes⟩ =
      (g.sweep fun i => (k.body i).run ⟨k.name, k.params, args, locks⟩).mapError
        (Halt.toError k.name) ⟨d.pool.arena, d.notes⟩ := by
    rw [Kernel.execute, hlocks]
  rw [launch_apply, hcounted, hcheck]
  dsimp only
  rw [hgrid]
  dsimp only
  rw [execute, on_apply]
  show (((k.execute args g ⟨d.pool.arena, d.notes⟩).1.map fun _ => g),
    d.launched (k.execute args g ⟨d.pool.arena, d.notes⟩).2) = _
  rw [hexecute]
  rfl

/-- **A launch runs the body of each point once and in order, up to the first that does not get
done.** The launch is accepted: the device does not fail, the arguments go with the parameters, they
lead to the grid `g`, whose sizes may be zero, and their blocks can be held. Then the points whose
bodies are run are points of the grid, and their numbers are 0, 1, 2 and so on. Either these are all
points, their bodies got done one after the other, and the launch succeeds. Or they end at a point
whose body did not get done where those before it had left memory; the launch leaves memory as this
body left it, and its error is the error of the body, or says that the body crashed. -/
theorem launch_visits (hcall : (call .launch d).1 = .ok ()) (hcheck : k.checkArgs args = .ok ())
    (hgrid : k.grid args = .ok g) (hlocks : LockTable.acquire d.pool.arena args = .ok locks) :
    let visit := fun i => (k.body i).run ⟨k.name, k.params, args, locks⟩
    let start : Execution := ⟨d.pool.arena, d.notes⟩
    let items := g.visited visit start
    items.map WorkItem.linear = List.range items.length ∧
      (∀ i ∈ items, i.grid = g ∧ i.InGrid) ∧
      ((∃ s, items.length = g.count ∧ each items visit start = (.ok (), s) ∧
          launch k args d = (.ok g, d.launched s)) ∨
        ∃ earlier last s halt s', items = earlier ++ [last] ∧
          each earlier visit start = (.ok (), s) ∧ visit last s = (.error halt, s') ∧
          launch k args d = (.error (halt.toError k.name), d.launched s')) := by
  intro visit start items
  have hlaunch := launch_eq_sweep hcall hcheck hgrid hlocks
  rcases hsweep : g.sweep visit start with ⟨halt | u, s'⟩ <;> rw [hsweep] at hlaunch
  · obtain ⟨n, i, s, hvisited, hi, hbefore, hfails⟩ := Grid.visited_of_error hsweep
    have hitems : items = g.items.take (n + 1) := hvisited
    have hlast : items = g.items.take n ++ [i] := by
      rw [hitems, List.take_add_one, hi, Option.toList_some]
    refine ⟨hitems ▸ g.map_linear_take_items _, fun j hj => ?_,
      .inr ⟨_, i, s, halt, s', hlast, hbefore, hfails, hlaunch⟩⟩
    exact Grid.inGrid_of_mem_items (List.mem_of_mem_take (hitems ▸ hj))
  · have hitems : items = g.items := Grid.visited_of_ok hsweep
    have hall : g.items.take g.items.length = g.items := List.take_length
    refine ⟨?_, fun j hj => Grid.inGrid_of_mem_items (hitems ▸ hj), .inl ⟨s', ?_, ?_, hlaunch⟩⟩
    · rw [hitems, ← hall]
      exact g.map_linear_take_items _
    · rw [hitems, Grid.length_items]
    · rw [hitems, ← Grid.sweep_eq_each]
      exact hsweep

/-- Two rows of two points, of which the second point crashes when it has stored its byte. It is the
last one that comes up, and both bytes stay. -/
theorem launch_visits_crash :
    let byte : ElementType := .scalar .uint8
    let k : Kernel := ⟨⟨0⟩, "k", [.buffer byte .write], ⟨[.fixed 2, .fixed 2]⟩, fun i =>
      .store 0 byte i.linear (7 : UInt8)
        (.orFail fun _ => if i.x = 1 then .crash none else .done)⟩
    let d := (allocate byte 4 (cpu none 0)).2
    let a : Allocation := ⟨byte, 4, some ⟨0⟩⟩
    let locks : LockTable := ⟨[some 0], [⟨0⟩]⟩
    let items := Grid.visited ⟨2, 2, 1⟩
      (fun i => (k.body i).run ⟨k.name, k.params, [.buffer a], locks⟩) ⟨d.pool.arena, d.notes⟩
    items.map WorkItem.linear = [0, 1] ∧
      (launch k [.buffer a] d).1 =
        .error (.launch "k" "kernel body panicked: unknown panic") ∧
      (launch k [.buffer a] d).2.pool.arena.download a 4 = .ok #[7, 7, 0, 0] := by
  intro byte k d a locks items
  have hcall : (call .launch d).1 = .ok () := rfl
  have hcheck : k.checkArgs [.buffer a] = .ok () := rfl
  have hgrid : k.grid [.buffer a] = .ok ⟨2, 2, 1⟩ := rfl
  have hlocks : LockTable.acquire d.pool.arena [.buffer a] = .ok locks := rfl
  obtain ⟨hnumbers, -, -⟩ := launch_visits hcall hcheck hgrid hlocks
  have hlength : items.length = 2 := by decide +kernel
  have hcrash : (launch k [.buffer a] d).1 =
      .error (.launch "k" "kernel body panicked: unknown panic") := by decide +kernel
  have hbytes : (launch k [.buffer a] d).2.pool.arena.download a 4 = .ok #[7, 7, 0, 0] := by
    decide +kernel
  refine ⟨?_, hcrash, hbytes⟩
  rw [hnumbers, hlength]
  rfl

end Device

end Offload
