import Mathlib.Algebra.GroupWithZero.Nat
import Mathlib.Algebra.Order.BigOperators.Group.List
import Mathlib.Algebra.Order.Group.Nat
import Offload.Bench.Span
import Offload.Proofs.Protocol

/-!
# Mean durations

A summary tells the mean duration of a run. It is the sum of all durations divided by their number
and rounded down, so that it lies between the shortest duration and the longest one. A number of
runs that has more than 32 bits is not divided by, and the mean is told to be zero.

* `Span.sum?_eq_some`, `Span.sum?_eq_none_iff` — durations have a sum where there is room for it.
* `Span.total_share` — dividing seconds and nanoseconds apart is dividing the duration.
* `Summary.mean_bounds` — a rounded mean lies between bounds of what it is the mean of.
* `Summary.mean_of_runs` — what a summary tells about its runs.
* `Benchmark.mean_vanishes` — a benchmark that is run too often for a mean.
-/

namespace Offload

namespace Span

variable {d e : Span} {ds : List Span}

theorem total_lt (d : Span) : d.total < bound := by
  have hsecs : (d.secs + 1) * nanosPerSecond ≤ bound := Nat.mul_le_mul_right _ d.secs_lt
  have hnanos := d.nanos_lt
  rw [Nat.succ_mul] at hsecs
  rw [total]
  omega

/-- There is room for as many seconds as there are in a duration below the bound. -/
theorem ofParts?_cases (secs : Nat) {nanos : Nat} (h : nanos < nanosPerSecond) :
    (∃ d, ofParts? secs nanos h = some d ∧ d.total = secs * nanosPerSecond + nanos) ∨
      ofParts? secs nanos h = none ∧ bound ≤ secs * nanosPerSecond + nanos := by
  rw [ofParts?]
  split
  · exact .inl ⟨_, rfl, rfl⟩
  · rename_i hsecs
    exact .inr ⟨rfl, Nat.le_add_right_of_le (Nat.mul_le_mul_right _ (Nat.le_of_not_lt hsecs))⟩

/-- Two durations have a sum where there is room for it. -/
theorem add?_cases (d e : Span) :
    (∃ f, add? d e = some f ∧ f.total = d.total + e.total) ∨
      add? d e = none ∧ bound ≤ d.total + e.total := by
  have hsecs : (d.secs + e.secs) * nanosPerSecond =
      d.secs * nanosPerSecond + e.secs * nanosPerSecond := Nat.add_mul _ _ _
  rw [add?, total, total]
  split
  · rename_i h
    have hparts := ofParts?_cases (d.secs + e.secs) h
    rwa [hsecs, Nat.add_add_add_comm] at hparts
  · -- a second is full
    rename_i h
    have hd := d.nanos_lt
    have he := e.nanos_lt
    have hrest : d.nanos + e.nanos - nanosPerSecond < nanosPerSecond := by omega
    have hcarry : (d.secs + e.secs + 1) * nanosPerSecond + (d.nanos + e.nanos - nanosPerSecond) =
        d.secs * nanosPerSecond + d.nanos + (e.secs * nanosPerSecond + e.nanos) := by
      rw [Nat.succ_mul, hsecs]
      omega
    have hparts := ofParts?_cases (d.secs + e.secs + 1) hrest
    rwa [hcarry] at hparts

/-- Going on from a sum. -/
theorem foldlM_add?_cases (d : Span) (ds : List Span) :
    (∃ e, ds.foldlM add? d = some e ∧ e.total = d.total + (ds.map total).sum) ∨
      ds.foldlM add? d = none ∧ bound ≤ d.total + (ds.map total).sum := by
  induction ds generalizing d with
  | nil => exact .inl ⟨d, rfl, (Nat.add_zero _).symm⟩
  | cons e r ih =>
    rw [List.foldlM_cons, List.map_cons, List.sum_cons, ← Nat.add_assoc]
    obtain ⟨f, hf, htotal⟩ | ⟨hnone, hle⟩ := add?_cases d e
    · rw [hf, ← htotal]
      exact ih f
    · rw [hnone]
      exact .inr ⟨rfl, Nat.le_add_right_of_le hle⟩

theorem sum?_cases (ds : List Span) :
    (∃ e, sum? ds = some e ∧ e.total = (ds.map total).sum) ∨
      sum? ds = none ∧ bound ≤ (ds.map total).sum := by
  have h := foldlM_add?_cases zero ds
  rwa [show zero.total = 0 from rfl, Nat.zero_add] at h

/-- Durations for whose sum there is room have that sum. -/
theorem sum?_eq_some (h : (ds.map total).sum < bound) :
    ∃ e, sum? ds = some e ∧ e.total = (ds.map total).sum :=
  (sum?_cases ds).resolve_right fun hnone => Nat.not_le_of_lt h hnone.2

/-- The other durations have none. -/
theorem sum?_eq_none_iff : sum? ds = none ↔ bound ≤ (ds.map total).sum := by
  obtain ⟨e, he, htotal⟩ | ⟨hnone, hle⟩ := sum?_cases ds
  · rw [he, ← htotal]
    exact ⟨nofun, fun hle => absurd hle (Nat.not_le_of_lt e.total_lt)⟩
  · exact ⟨fun _ => hle, fun _ => hnone⟩

/-- A share of a duration is a share of its nanoseconds. -/
theorem total_share (d : Span) {n : Nat} (hn : 0 < n) : (d.share n hn).total = d.total / n := by
  have hsecs : n * (d.secs / n * nanosPerSecond) + d.secs % n * nanosPerSecond =
      d.secs * nanosPerSecond := by
    rw [← Nat.mul_assoc, ← Nat.add_mul, Nat.div_add_mod]
  have hnanos : n * (d.nanos / n) + d.nanos % n = d.nanos := Nat.div_add_mod _ _
  have hparts : d.total = n * (d.secs / n * nanosPerSecond + d.nanos / n) +
      (d.secs % n * nanosPerSecond + d.nanos % n) := by
    rw [total, Nat.mul_add]
    omega
  rw [hparts, Nat.mul_add_div hn]
  exact (Nat.add_assoc _ _ _).symm

/-- Comparing seconds first is comparing durations. -/
theorem total_lt_total_iff :
    e.total < d.total ↔ e.secs < d.secs ∨ e.secs = d.secs ∧ e.nanos < d.nanos := by
  have hd := d.nanos_lt
  have he := e.nanos_lt
  rw [total, total]
  rcases Nat.lt_trichotomy e.secs d.secs with hlt | heq | hgt
  · have hsecs : (e.secs + 1) * nanosPerSecond ≤ d.secs * nanosPerSecond :=
      Nat.mul_le_mul_right _ hlt
    rw [Nat.succ_mul] at hsecs
    exact ⟨fun _ => .inl hlt, fun _ => by omega⟩
  · rw [heq]
    omega
  · have hsecs : (d.secs + 1) * nanosPerSecond ≤ e.secs * nanosPerSecond :=
      Nat.mul_le_mul_right _ hgt
    rw [Nat.succ_mul] at hsecs
    omega

theorem total_shorter (d e : Span) : (shorter d e).total = min d.total e.total := by
  rw [shorter]
  split
  · rename_i h
    exact (Nat.min_eq_right (Nat.le_of_lt (total_lt_total_iff.mpr h))).symm
  · rename_i h
    exact (Nat.min_eq_left (Nat.le_of_not_lt (mt total_lt_total_iff.mp h))).symm

theorem total_foldl_shorter (d : Span) (ds : List Span) :
    (ds.foldl shorter d).total = (ds.map total).foldl min d.total := by
  induction ds generalizing d with
  | nil => rfl
  | cons e r ih => rw [List.foldl_cons, ih, total_shorter, List.map_cons, List.foldl_cons]

/-- The shortest duration has the fewest nanoseconds. -/
theorem total_shortest (ds : List Span) : (shortest ds).total = (ds.map total).min?.getD 0 := by
  rcases ds with _ | ⟨d, r⟩
  · rfl
  · exact total_foldl_shorter d r

end Span

namespace Bench.Summary

/-- A mean that was rounded down lies between bounds of what it is the mean of. -/
theorem mean_bounds {ds : List Nat} {least greatest : Nat} (hne : ds ≠ [])
    (hleast : ∀ d ∈ ds, least ≤ d) (hgreatest : ∀ d ∈ ds, d ≤ greatest) :
    least ≤ ds.sum / ds.length ∧ ds.sum / ds.length ≤ greatest := by
  have hpos : 0 < ds.length := List.length_pos_iff.mpr hne
  have hlow : ds.length * least ≤ ds.sum := List.card_nsmul_le_sum ds least hleast
  have hhigh : ds.sum ≤ ds.length * greatest := List.sum_le_card_nsmul ds greatest hgreatest
  exact ⟨(Nat.le_div_iff_mul_le hpos).mpr (Nat.mul_comm _ _ ▸ hlow),
    Nat.div_le_of_le_mul hhigh⟩

variable {s : Summary}

theorem perIteration_of_lt (h : s.runs.length < countBound) :
    s.perIteration = s.runs.sum / s.runs.length := if_pos h

theorem perIteration_of_le (h : countBound ≤ s.runs.length) : s.perIteration = 0 :=
  if_neg (Nat.not_lt_of_le h)

/-- The shortest run is one of the runs, and no run is shorter. -/
theorem shortest_spec (h : s.runs ≠ []) : s.shortest ∈ s.runs ∧ ∀ d ∈ s.runs, s.shortest ≤ d := by
  rcases hmin : s.runs.min? with _ | d
  · exact absurd (List.min?_eq_none_iff.mp hmin) h
  · rw [shortest, hmin]
    exact List.min?_eq_some_iff.mp hmin

/-- Some run is the longest one. -/
theorem exists_longest (h : s.runs ≠ []) : ∃ longest ∈ s.runs, ∀ d ∈ s.runs, d ≤ longest := by
  rcases hmax : s.runs.max? with _ | d
  · exact absurd (List.max?_eq_none_iff.mp hmax) h
  · exact ⟨d, List.max?_eq_some_iff.mp hmax⟩

/-- The mean that is worked out from what is kept is that of the summary. -/
theorem total_perRun? {ds : List Span} (hruns : s.runs = ds.map Span.total) (hne : ds ≠ [])
    (hfit : s.runs.sum < Span.bound) :
    ∃ p, Span.perRun? ds = some p ∧ p.total = s.perIteration := by
  have hpos : 0 < ds.length := List.length_pos_iff.mpr hne
  have hlength : s.runs.length = ds.length := by rw [hruns, List.length_map]
  rcases Nat.lt_or_ge ds.length countBound with hlt | hge
  · obtain ⟨e, he, htotal⟩ := Span.sum?_eq_some (hruns ▸ hfit)
    refine ⟨e.share ds.length hpos, ?_, ?_⟩
    · rw [Span.perRun?, dif_pos ⟨hpos, hlt⟩, he]
      rfl
    · rw [Span.total_share, htotal, perIteration_of_lt (hlength ▸ hlt), hruns, List.length_map]
  · refine ⟨Span.zero, dif_neg fun h => Nat.not_lt_of_le hge h.2, ?_⟩
    rw [perIteration_of_le (hlength ▸ hge)]
    rfl

/-- **What a summary tells about its runs.** Let there be any number of runs, with durations for
whose sum there is room. Then the summary tells their sum, their mean and the shortest of them, and
working all this out from what is kept of the durations, seconds and nanoseconds apart, comes to the
same. If 32 bits are enough for the number of runs, the mean is the sum divided by that number and
rounded down, is no less than the shortest run and no more than the longest one. Otherwise it is
zero. -/
theorem mean_of_runs (device : String) (valid : Bool) (ds : List Span) (hne : ds ≠ [])
    (hfit : (ds.map Span.total).sum < Span.bound) :
    let s : Summary := ⟨device, valid, ds.map Span.total⟩
    let n := s.runs.length
    let p := s.perIteration
    s.elapsed = s.runs.sum ∧ (s.shortest ∈ s.runs ∧ ∀ d ∈ s.runs, s.shortest ≤ d) ∧
      (∃ e, Span.sum? ds = some e ∧ e.total = s.elapsed) ∧
      (∃ q, Span.perRun? ds = some q ∧ q.total = p) ∧
      (Span.shortest ds).total = s.shortest ∧
      (n < countBound → n * p ≤ s.elapsed ∧ s.elapsed < n * (p + 1) ∧ s.shortest ≤ p ∧
        ∃ longest ∈ s.runs, (∀ d ∈ s.runs, d ≤ longest) ∧ p ≤ longest) ∧
      (countBound ≤ n → p = 0) := by
  intro s n p
  have hruns : s.runs ≠ [] := fun h => hne (List.map_eq_nil_iff.mp h)
  have hshortest := shortest_spec hruns
  refine ⟨rfl, hshortest, Span.sum?_eq_some hfit, total_perRun? rfl hne hfit,
    Span.total_shortest ds, fun hlt => ?_, perIteration_of_le⟩
  obtain ⟨longest, hmem, hlongest⟩ := exists_longest hruns
  obtain ⟨hlow, hhigh⟩ := mean_bounds hruns hshortest.2 hlongest
  have hp : p = s.elapsed / n := perIteration_of_lt hlt
  rw [hp]
  exact ⟨Nat.mul_div_le _ _, Nat.lt_mul_div_succ _ (List.length_pos_iff.mpr hruns), hlow, longest,
    hmem, hlongest, hhigh⟩

/-- Neither a second nor two nanoseconds can be divided by three, but together they can. -/
theorem mean_of_runs_carried :
    let s : Summary := ⟨"CPU", true, [1000000000, 1, 1]⟩
    s.elapsed = 1000000002 ∧ s.perIteration = 333333334 ∧ s.shortest = 1 ∧
      s.shortest ≤ s.perIteration ∧ s.elapsed < 3 * (s.perIteration + 1) ∧
      ∃ q, Span.perRun? [⟨1, 0, by decide, by decide⟩, ⟨0, 1, by decide, by decide⟩,
        ⟨0, 1, by decide, by decide⟩] = some q ∧ q.total = 333333334 := by
  intro s
  obtain ⟨helapsed, -, -, hmean, -, hbounds, -⟩ := mean_of_runs "CPU" true
    [⟨1, 0, by decide, by decide⟩, ⟨0, 1, by decide, by decide⟩, ⟨0, 1, by decide, by decide⟩]
    (List.cons_ne_nil _ _) (by decide)
  obtain ⟨-, hlt, hshortest, -⟩ := hbounds (by decide)
  exact ⟨helapsed, by decide, by decide, hshortest, hlt, hmean⟩

end Bench.Summary

/-! ### More runs than can be counted -/

namespace Benchmark

open Bench

/-- A benchmark that always succeeds. -/
def steady : Benchmark (StateM Nat) where
  setUp := pure (.ok ())
  code := pure (.ok ())
  validate := pure (.ok true)
  tearDown := pure (.ok ())
  deviceName := pure "CPU"

/-- A clock that goes on by one nanosecond whenever somebody looks at it. -/
def tick : StateM Nat Nat := fun t => (t, t + 1)

theorem timed_tick (n : Nat) (earlier : List Nat) (t : Nat) :
    ∃ t', timed tick steady n earlier t = (.ok (earlier.reverse ++ List.replicate n 1), t') := by
  induction n generalizing earlier t with
  | zero => exact ⟨t, by rw [List.replicate_zero, List.append_nil]; rfl⟩
  | succ n ih =>
    have hcode : steady.code (tick t).2 = (.ok (), t + 1) := rfl
    have hspan : (tick (t + 1)).1 - (tick t).1 = 1 := Nat.add_sub_cancel_left t 1
    obtain ⟨t', ht'⟩ := ih (1 :: earlier) (tick (t + 1)).2
    refine ⟨t', ?_⟩
    rw [timed_succ_of_ok hcode, hspan, ht', List.reverse_cons, List.append_assoc,
      List.singleton_append, ← List.replicate_succ]

/-- By this clock every run takes one nanosecond. -/
theorem run_steady {n : Nat} (hroom : n < roomBound) :
    (steady.run tick n 0).1 = some (.ok ⟨"CPU", true, List.replicate n 1⟩) := by
  obtain ⟨t, ht⟩ := timed_tick n [] 0
  rw [(asks_run_timed hroom ⟨0, rfl, rfl⟩ ht).plain, conclude_summary_apply]
  rfl

/-- The least number of runs that has more than 32 bits, of one nanosecond each. They take longer
than no time at all, and yet that is the mean which is told. -/
theorem mean_vanishes :
    let s : Summary := ⟨"CPU", true, List.replicate Summary.countBound 1⟩
    (steady.run tick Summary.countBound 0).1 = some (.ok s) ∧ s.runs ≠ [] ∧
      s.runs.sum < Span.bound ∧ s.elapsed = s.runs.length ∧ s.perIteration = 0 ∧ s.shortest = 1 ∧
      ¬ s.elapsed < s.runs.length * (s.perIteration + 1) ∧ ¬ s.shortest ≤ s.perIteration := by
  intro s
  have hlength : s.runs.length = Summary.countBound := List.length_replicate
  have hsum : s.runs.sum = Summary.countBound := List.sum_replicate_nat.trans (Nat.mul_one _)
  have helapsed : s.elapsed = Summary.countBound := hsum
  have hmean : s.perIteration = 0 := Summary.perIteration_of_le (Nat.le_of_eq hlength.symm)
  have hruns : s.runs ≠ [] := List.ne_nil_of_length_pos (hlength ▸ by decide)
  have hshortest : s.shortest = 1 :=
    List.eq_of_mem_replicate (Summary.shortest_spec hruns).1
  refine ⟨run_steady (by decide), hruns, ?_, helapsed.trans hlength.symm, hmean, hshortest, ?_, ?_⟩
  · rw [hsum]
    decide
  · rw [hmean, helapsed, hlength]
    omega
  · rw [hmean, hshortest]
    decide

end Benchmark

end Offload
