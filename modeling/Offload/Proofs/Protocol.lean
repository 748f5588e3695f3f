import Offload.Bench.Runner

/-!
# What a runner asks of a benchmark

A runner may be given any benchmark, with a state of its own and whatever results. What it asks of
the benchmark is written down by the benchmark itself, which keeps a log of the calls that it gets;
the name of the device may be asked for at any time and is left out. It sets up, validates, runs
some times if the result was right, and tears down, which is asked for on every way out, once and in
the end. Only where there is no room for the durations of all these runs it gets stuck before the
first of them.

The last word is that of tearing down, except where the benchmark could not be set up: a failure to
tear down takes the place of a run that failed as well as of a summary.

* `Benchmark.logged` — a benchmark that keeps a log, and `Benchmark.requests`, the log of a run.
* `Benchmark.Asks` — what a computation asks, and how it ends.
* `Benchmark.asks_run_unset`, `Benchmark.asks_run_invalid`, `Benchmark.asks_run_broken`,
  `Benchmark.asks_run_timed` — the four ways that a run can go to its end.
* `Benchmark.asks_run_stuck` — a run that gets stuck.
* `Benchmark.run_requests` — every run that there is room for goes one of the four ways.
* `Benchmark.reported_failure` — which error is reported where something failed.
-/

namespace Offload.Benchmark

open Bench

/-- What can be asked of a benchmark, apart from the name of its device. -/
inductive Request where
  /-- make the data and whatever is to be run -/
  | setUp
  /-- run once and compare the result with a reference -/
  | validate
  /-- run once -/
  | code
  /-- give everything up -/
  | tearDown
deriving DecidableEq

section

variable {m : Type → Type} [Monad m] {α : Type}

/-- The same computation, which is also entered in a log once it is over. -/
def noting (q : Request) (c : m α) : StateT (List Request) m α := fun log => do
  let a ← c
  return (a, log ++ [q])

/-- The same benchmark, with a log of what is asked of it. -/
def logged (b : Benchmark m) : Benchmark (StateT (List Request) m) where
  setUp := noting .setUp b.setUp
  code := noting .code b.code
  validate := noting .validate b.validate
  tearDown := noting .tearDown b.tearDown
  deviceName := StateT.lift b.deviceName

end

variable {σ α β : Type}

/-- The log of a run that starts in `s`. -/
def requests (now : StateM σ Nat) (b : Benchmark (StateM σ)) (n : Nat) (s : σ) : List Request :=
  (b.logged.run (StateT.lift now) n [] s).1.2

/-! ### What computations ask -/

/-- The computation `c` ends in `s'` with the result `a`, and so does `c'`, which is the same with a
log, where `calls` are entered. -/
structure Asks (c : StateM σ α) (c' : StateT (List Request) (StateM σ) α) (s : σ)
    (calls : List Request) (a : α) (s' : σ) : Prop where
  /-- what happens without a log -/
  plain : c s = (a, s')
  /-- what happens with one -/
  noted : ∀ log, c' log s = ((a, log ++ calls), s')

namespace Asks

variable {s s₁ s₂ : σ} {a : α}

theorem pure (a : α) (s : σ) : Asks (pure a) (pure a) s [] a s :=
  ⟨rfl, fun log => by rw [List.append_nil]; rfl⟩

/-- What is not a request is not entered. -/
theorem lift {c : StateM σ α} (h : c s = (a, s₁)) : Asks c (StateT.lift c) s [] a s₁ := by
  refine ⟨h, fun log => ?_⟩
  show (((c s).1, log), (c s).2) = _
  rw [h, List.append_nil]

/-- A request is entered. -/
theorem noting {q : Request} {c : StateM σ α} (h : c s = (a, s₁)) :
    Asks c (noting q c) s [q] a s₁ := by
  refine ⟨h, fun log => ?_⟩
  show (((c s).1, log ++ [q]), (c s).2) = _
  rw [h]

/-- Two computations in a row. -/
theorem bind {c : StateM σ α} {c' : StateT (List Request) (StateM σ) α} {f : α → StateM σ β}
    {f' : α → StateT (List Request) (StateM σ) β} {q q' : List Request} {r : β}
    (hc : Asks c c' s q a s₁) (hf : Asks (f a) (f' a) s₁ q' r s₂) :
    Asks (c >>= f) (c' >>= f') s (q ++ q') r s₂ := by
  refine ⟨?_, fun log => ?_⟩
  · show f (c s).1 (c s).2 = _
    rw [hc.plain, hf.plain]
  · show f' (c' log s).1.1 (c' log s).1.2 (c' log s).2 = _
    rw [hc.noted, hf.noted, List.append_assoc]

/-- A computation the result of which is wrapped up. -/
theorem some {c : StateM σ α} {c' : StateT (List Request) (StateM σ) α} {q : List Request}
    (hc : Asks c c' s q a s₁) :
    Asks (do return some (← c)) (do return some (← c')) s q (Option.some a) s₁ :=
  List.append_nil q ▸ hc.bind (.pure _ s₁)

section

variable {p : Prop} [Decidable p] {c d : StateM σ α}
  {c' d' : StateT (List Request) (StateM σ) α} {q : List Request}

/-- A computation that is stopped on some condition, which holds. -/
theorem ite_pos (hp : p) (h : Asks c c' s q a s₁) :
    Asks (if p then c else d) (if p then c' else d') s q a s₁ := by
  rwa [if_pos hp, if_pos hp]

/-- A computation that is stopped on some condition, which does not hold. -/
theorem ite_neg (hp : ¬ p) (h : Asks d d' s q a s₁) :
    Asks (if p then c else d) (if p then c' else d') s q a s₁ := by
  rwa [if_neg hp, if_neg hp]

end

end Asks

theorem bind_of_eq {c : StateM σ α} {f : α → StateM σ β} {s s' : σ} {a : α} (h : c s = (a, s')) :
    (c >>= f) s = f a s' := by
  show f (c s).1 (c s).2 = _
  rw [h]

variable {now : StateM σ Nat} {b : Benchmark (StateM σ)} {n : Nat} {earlier runs : List Nat}
  {s s' s₁ s₂ : σ} {e : BenchError}

/-! ### Timed runs -/

/-- A run that fails is the last one. -/
theorem asks_timed_succ_of_error (h : b.code (now s).2 = (.error e, s')) :
    Asks (timed now b (n + 1) earlier) (timed (StateT.lift now) b.logged (n + 1) earlier) s
      [.code] (.error e) s' :=
  .bind (q := []) (.lift rfl) (.bind (q := [.code]) (.noting h) (.pure _ _))

/-- A run that succeeds is followed by the others. -/
theorem asks_timed_succ_of_ok {calls : List Request} {r : Except BenchError (List Nat)}
    (h : b.code (now s).2 = (.ok (), s₁))
    (hr : Asks (timed now b n (((now s₁).1 - (now s).1) :: earlier))
      (timed (StateT.lift now) b.logged n (((now s₁).1 - (now s).1) :: earlier)) (now s₁).2
      calls r s') :
    Asks (timed now b (n + 1) earlier) (timed (StateT.lift now) b.logged (n + 1) earlier) s
      (.code :: calls) r s' :=
  .bind (q := []) (.lift rfl)
    (.bind (q := [.code]) (.noting h) (.bind (q := []) (.lift rfl) hr))

/-- What is left to do after a run that succeeds. -/
theorem timed_succ_of_ok (h : b.code (now s).2 = (.ok (), s₁)) :
    timed now b (n + 1) earlier s =
      timed now b n (((now s₁).1 - (now s).1) :: earlier) (now s₁).2 := by
  have hclock (t : σ) : now t = ((now t).1, (now t).2) := rfl
  rw [timed, bind_of_eq (hclock s), bind_of_eq h]
  exact bind_of_eq (hclock s₁)

/-- Timed runs of which none fails. -/
theorem asks_timed (h : timed now b n earlier s = (.ok runs, s')) :
    Asks (timed now b n earlier) (timed (StateT.lift now) b.logged n earlier) s
      (List.replicate n .code) (.ok runs) s' ∧ runs.length = earlier.length + n := by
  induction n generalizing earlier s with
  | zero =>
    cases h
    exact ⟨.pure _ _, List.length_reverse⟩
  | succ n ih =>
    rcases hcode : b.code (now s).2 with ⟨e | u, s₁⟩
    · rw [(asks_timed_succ_of_error hcode).plain] at h
      cases h
    · rw [timed_succ_of_ok hcode] at h
      obtain ⟨hrest, hlength⟩ := ih h
      refine ⟨asks_timed_succ_of_ok hcode hrest, ?_⟩
      rw [hlength, List.length_cons]
      omega

/-- Timed runs of which one fails, after `i` runs that did not. -/
theorem asks_timed_of_error {i : Nat} (hi : i < n)
    (hruns : timed now b i earlier s = (.ok runs, s₁))
    (hcode : b.code (now s₁).2 = (.error e, s')) :
    Asks (timed now b n earlier) (timed (StateT.lift now) b.logged n earlier) s
      (List.replicate (i + 1) .code) (.error e) s' := by
  obtain ⟨n, rfl⟩ := Nat.exists_eq_add_one_of_ne_zero (Nat.ne_of_gt (Nat.zero_lt_of_lt hi))
  induction i generalizing n earlier s with
  | zero =>
    cases hruns
    exact asks_timed_succ_of_error hcode
  | succ i ih =>
    rcases hfirst : b.code (now s).2 with ⟨e' | u, s₂⟩
    · rw [(asks_timed_succ_of_error hfirst).plain] at hruns
      cases hruns
    · rw [timed_succ_of_ok hfirst] at hruns
      obtain ⟨n, rfl⟩ := Nat.exists_eq_add_one_of_ne_zero (n := n) (by omega)
      exact asks_timed_succ_of_ok hfirst (ih hruns n (by omega))

/-- Where timed runs fail, one of them does. -/
theorem timed_error (h : timed now b n earlier s = (.error e, s')) :
    ∃ i < n, ∃ runs s₁, timed now b i earlier s = (.ok runs, s₁) ∧
      b.code (now s₁).2 = (.error e, s') := by
  induction n generalizing earlier s with
  | zero => cases h
  | succ n ih =>
    rcases hcode : b.code (now s).2 with ⟨e' | u, s₁⟩
    · rw [(asks_timed_succ_of_error hcode).plain] at h
      cases h
      exact ⟨0, Nat.succ_pos n, earlier.reverse, s, rfl, hcode⟩
    · rw [timed_succ_of_ok hcode] at h
      obtain ⟨i, hi, runs, s₂, hruns, hfails⟩ := ih h
      exact ⟨i + 1, Nat.succ_lt_succ hi, runs, s₂, (timed_succ_of_ok hcode).trans hruns, hfails⟩

/-! ### Whole runs -/

/-- The benchmark can be set up and is found valid, which leads to `s'`. -/
def Valid (b : Benchmark (StateM σ)) (s s' : σ) : Prop :=
  ∃ s₁, b.setUp s = (.ok (), s₁) ∧ b.validate s₁ = (.ok true, s')

/-- After `i` timed runs that succeed there is one that fails with `e`, which leads to `s'`. -/
def BreaksAt (now : StateM σ Nat) (b : Benchmark (StateM σ)) (s : σ) (i : Nat) (e : BenchError)
    (s' : σ) : Prop :=
  ∃ s₁ runs s₂, b.Valid s s₁ ∧ timed now b i [] s₁ = (.ok runs, s₂) ∧
    b.code (now s₂).2 = (.error e, s')

/-- The outcome of runs that all got done. -/
def summary {m : Type → Type} [Monad m] (b : Benchmark m) (valid : Bool) (runs : List Nat) :
    m (Except BenchError Summary) := do
  let device ← b.deviceName
  return .ok ⟨device, valid, runs⟩

/-- Tearing down has the last word. -/
theorem conclude_apply (outcome : StateM σ (Except BenchError α)) (s : σ) :
    b.conclude outcome s =
      match b.tearDown s with
      | (.error e, s') => (.error e, s')
      | (.ok (), s') => outcome s' := by
  rcases h : b.tearDown s with ⟨e | u, s'⟩ <;> exact bind_of_eq h

/-- Tearing down is one request. -/
theorem asks_conclude {outcome : StateM σ (Except BenchError α)}
    {outcome' : StateT (List Request) (StateM σ) (Except BenchError α)}
    (h : ∀ s, Asks outcome outcome' s [] (outcome s).1 (outcome s).2) (s : σ) :
    Asks (b.conclude outcome) (b.logged.conclude outcome') s [.tearDown]
      (b.conclude outcome s).1 (b.conclude outcome s).2 := by
  rw [conclude_apply]
  rcases hdown : b.tearDown s with ⟨e | u, s'⟩
  · exact .bind (q := [.tearDown]) (.noting hdown) (.pure _ _)
  · exact .bind (q := [.tearDown]) (.noting hdown) (h s')

/-- The name of the device is asked for after that. -/
theorem asks_conclude_summary (b : Benchmark (StateM σ)) (valid : Bool) (runs : List Nat) (s : σ) :
    Asks (b.conclude (b.summary valid runs)) (b.logged.conclude (b.logged.summary valid runs)) s
      [.tearDown] (b.conclude (b.summary valid runs) s).1
      (b.conclude (b.summary valid runs) s).2 :=
  asks_conclude (fun _ => .bind (q := []) (.lift rfl) (.pure _ _)) s

/-- A benchmark that cannot be set up is torn down. -/
theorem asks_run_unset (h : b.setUp s = (.error e, s₁)) :
    Asks (b.run now n) (b.logged.run (StateT.lift now) n) s [.setUp, .tearDown] (some (.error e))
      (b.tearDown s₁).2 :=
  .bind (q := [.setUp]) (.noting h) (.bind (q := [.tearDown]) (.noting rfl) (.pure _ _))

/-- A benchmark that is not found valid is torn down without timed runs. -/
theorem asks_run_invalid {v : Except BenchError Bool} (hset : b.setUp s = (.ok (), s₁))
    (hval : b.validate s₁ = (v, s₂)) (hv : v ≠ .ok true) :
    Asks (b.run now n) (b.logged.run (StateT.lift now) n) s [.setUp, .validate, .tearDown]
      (some (b.conclude (b.summary false []) s₂).1) (b.conclude (b.summary false []) s₂).2 := by
  refine .bind (q := [.setUp]) (.noting hset) (.bind (q := [.validate]) (.noting hval) ?_)
  have hroom : ¬ roomBound ≤ 0 := by decide
  have hruns : Asks (timed now b 0 []) (timed (StateT.lift now) b.logged 0 []) s₂ [] (.ok []) s₂ :=
    .pure _ _
  have hend := (asks_conclude_summary b false [] s₂).some
  rcases v with e | _ | _
  · exact .ite_neg hroom (.bind hruns hend)
  · exact .ite_neg hroom (.bind hruns hend)
  · exact absurd rfl hv

/-- Where there is no room for the durations, nothing is asked for after validating. -/
theorem asks_run_stuck (h : b.Valid s s₁) (hroom : roomBound ≤ n) :
    Asks (b.run now n) (b.logged.run (StateT.lift now) n) s [.setUp, .validate] none s₁ := by
  obtain ⟨s₀, hset, hval⟩ := h
  exact .bind (q := [.setUp]) (.noting hset) (.bind (q := [.validate]) (.noting hval)
    (.ite_pos hroom (.pure _ _)))

/-- A benchmark of which a timed run fails is torn down. -/
theorem asks_run_broken {i : Nat} (hroom : n < roomBound) (hi : i < n)
    (h : b.BreaksAt now s i e s') :
    Asks (b.run now n) (b.logged.run (StateT.lift now) n) s
      (.setUp :: .validate :: (List.replicate (i + 1) .code ++ [.tearDown]))
      (some (b.conclude (pure (.error e : Except BenchError Summary)) s').1)
      (b.conclude (pure (.error e : Except BenchError Summary)) s').2 := by
  obtain ⟨s₁, runs, s₂, ⟨s₀, hset, hval⟩, hruns, hcode⟩ := h
  have hend : Asks (b.conclude (pure (.error e : Except BenchError Summary))) _ s' _ _ _ :=
    asks_conclude (fun s => .pure _ s) s'
  exact .bind (q := [.setUp]) (.noting hset) (.bind (q := [.validate]) (.noting hval)
    (.ite_neg (Nat.not_le.mpr hroom) (.bind (asks_timed_of_error hi hruns hcode) hend.some)))

/-- A benchmark of which all timed runs succeed is torn down after the last one. -/
theorem asks_run_timed (hroom : n < roomBound) (h : b.Valid s s₁)
    (hruns : timed now b n [] s₁ = (.ok runs, s₂)) :
    Asks (b.run now n) (b.logged.run (StateT.lift now) n) s
      (.setUp :: .validate :: (List.replicate n .code ++ [.tearDown]))
      (some (b.conclude (b.summary true runs) s₂).1) (b.conclude (b.summary true runs) s₂).2 := by
  obtain ⟨s₀, hset, hval⟩ := h
  exact .bind (q := [.setUp]) (.noting hset) (.bind (q := [.validate]) (.noting hval)
    (.ite_neg (Nat.not_le.mpr hroom)
      (.bind (asks_timed hruns).1 (asks_conclude_summary b true runs s₂).some)))

/-- Every run goes one of four ways to its end, or gets stuck. -/
theorem run_cases (now : StateM σ Nat) (b : Benchmark (StateM σ)) (n : Nat) (s : σ) :
    (∃ e s₁, b.setUp s = (.error e, s₁)) ∨
      (∃ s₁ v s₂, b.setUp s = (.ok (), s₁) ∧ b.validate s₁ = (v, s₂) ∧ v ≠ .ok true) ∨
      (∃ s₁, b.Valid s s₁ ∧ roomBound ≤ n) ∨
      (n < roomBound ∧ ∃ i < n, ∃ e s₁, b.BreaksAt now s i e s₁) ∨
      (n < roomBound ∧ ∃ s₁ runs s₂, b.Valid s s₁ ∧ timed now b n [] s₁ = (.ok runs, s₂)) := by
  rcases hset : b.setUp s with ⟨e | u, s₁⟩
  · exact .inl ⟨e, s₁, rfl⟩
  · rcases hval : b.validate s₁ with ⟨v, s₂⟩
    by_cases hv : v = .ok true
    · subst hv
      have hvalid : b.Valid s s₂ := ⟨s₁, hset, hval⟩
      rcases Nat.lt_or_ge n roomBound with hroom | hroom
      · rcases hruns : timed now b n [] s₂ with ⟨e | runs, s₃⟩
        · obtain ⟨i, hi, runs, s₄, hbefore, hcode⟩ := timed_error hruns
          exact .inr (.inr (.inr (.inl
            ⟨hroom, i, hi, e, s₃, s₂, runs, s₄, hvalid, hbefore, hcode⟩)))
        · exact .inr (.inr (.inr (.inr ⟨hroom, s₂, runs, s₃, hvalid, hruns⟩)))
      · exact .inr (.inr (.inl ⟨s₂, hvalid, hroom⟩))
    · exact .inr (.inl ⟨s₁, v, s₂, rfl, hval, hv⟩)

/-- What is reported when everything got done before tearing down. -/
theorem conclude_summary_apply (valid : Bool) (runs : List Nat) (s : σ) :
    (b.conclude (b.summary valid runs) s).1 =
      (b.tearDown s).1.map fun _ => ⟨(b.deviceName (b.tearDown s).2).1, valid, runs⟩ := by
  rw [conclude_apply]
  rcases b.tearDown s with ⟨e | u, s'⟩ <;> rfl

/-- A summary is reported only when tearing down succeeded. -/
theorem of_conclude_summary {valid : Bool} {summary : Summary}
    (h : (b.conclude (b.summary valid runs) s).1 = .ok summary) :
    summary.valid = valid ∧ summary.runs = runs := by
  rw [conclude_summary_apply] at h
  rcases hdown : b.tearDown s with ⟨e | u, s'⟩ <;> rw [hdown] at h <;> cases h
  exact ⟨rfl, rfl⟩

/-- A summary has the durations of all runs that were asked for if the result was right, and none
otherwise. -/
theorem length_runs_of_run {summary : Summary} (h : (b.run now n s).1 = some (.ok summary)) :
    summary.runs.length = if summary.valid then n else 0 := by
  obtain ⟨e, s₁, hset⟩ | ⟨s₁, v, s₂, hset, hval, hv⟩ | ⟨s₁, hvalid, hroom⟩ |
    ⟨hroom, i, hi, e, s₁, hbreaks⟩ | ⟨hroom, s₁, runs, s₂, hvalid, hruns⟩ := run_cases now b n s
  · rw [(asks_run_unset hset).plain] at h
    cases h
  · rw [(asks_run_invalid hset hval hv).plain] at h
    obtain ⟨hvalid, hruns⟩ := of_conclude_summary (Option.some.inj h)
    rw [hvalid, hruns]
    rfl
  · rw [(asks_run_stuck hvalid hroom).plain] at h
    cases h
  · rw [(asks_run_broken hroom hi hbreaks).plain, conclude_apply] at h
    rcases hdown : b.tearDown s₁ with ⟨e' | u, s₂⟩ <;> rw [hdown] at h <;> cases h
  · rw [(asks_run_timed hroom hvalid hruns).plain] at h
    obtain ⟨hvalid, hlist⟩ := of_conclude_summary (Option.some.inj h)
    rw [hvalid, hlist, if_pos rfl, (asks_timed hruns).2, List.length_nil, Nat.zero_add]

section

variable {calls : List Request} {r : Option (Except BenchError Summary)}
  (h : Asks (b.run now n) (b.logged.run (StateT.lift now) n) s calls r s')
include h

/-- The log of a run has what was asked. -/
theorem requests_of_asks : requests now b n s = calls := by
  rw [requests, h.noted]
  rfl

/-- The log does not make any difference for the run. -/
theorem logged_run_of_asks : b.logged.run (StateT.lift now) n [] s =
    ((r, requests now b n s), s') := by
  rw [requests, h.noted]

end

/-- **What a runner asks of a benchmark.** The benchmark may have any state and any results, and the
log makes no difference for the run. There is room for the durations, if the benchmark is found
valid. What is asked is one of these: to set up and, as that failed, to tear down; to set up, to
validate and, as the result was wrong or not to be had, to tear down; to set up, to validate, to run
`i + 1` times, the last of which failed, and to tear down; to set up, to validate, to run `n` times
and to tear down. So tearing down is asked for once and in the end. A summary has `n` durations if
the result was right and none otherwise. A failure to validate is reported as a summary that says
that the result was wrong, unless tearing down fails, whose error is reported then. -/
theorem run_requests (now : StateM σ Nat) (b : Benchmark (StateM σ)) (n : Nat) (s : σ)
    (hroom : ∀ s', b.Valid s s' → n < roomBound) :
    let calls := requests now b n s
    ∃ out s', b.run now n s = (some out, s') ∧
      b.logged.run (StateT.lift now) n [] s = ((some out, calls), s') ∧
      ((∃ e s₁, b.setUp s = (.error e, s₁) ∧ calls = [.setUp, .tearDown]) ∨
        (∃ s₁ v s₂, b.setUp s = (.ok (), s₁) ∧ b.validate s₁ = (v, s₂) ∧ v ≠ .ok true ∧
          calls = [.setUp, .validate, .tearDown]) ∨
        (∃ i < n, ∃ e s₁, b.BreaksAt now s i e s₁ ∧
          calls = .setUp :: .validate :: (List.replicate (i + 1) .code ++ [.tearDown])) ∨
        ∃ s₁ runs s₂, b.Valid s s₁ ∧ timed now b n [] s₁ = (.ok runs, s₂) ∧
          calls = .setUp :: .validate :: (List.replicate n .code ++ [.tearDown])) ∧
      (∃ before, calls = before ++ [.tearDown] ∧ .tearDown ∉ before) ∧
      (∀ summary, out = .ok summary → summary.runs.length = if summary.valid then n else 0) ∧
      ∀ s₁ e s₂, b.setUp s = (.ok (), s₁) → b.validate s₁ = (.error e, s₂) →
        out = (b.tearDown s₂).1.map fun _ => ⟨(b.deviceName (b.tearDown s₂).2).1, false, []⟩ := by
  intro calls
  have hsummary {out s'} (h : b.run now n s = (some out, s')) (summary : Summary)
      (hout : out = .ok summary) : summary.runs.length = if summary.valid then n else 0 :=
    length_runs_of_run (by rw [h, hout])
  have hinvalid {out s'} (h : b.run now n s = (some out, s')) (s₁ : σ) (e : BenchError) (s₂ : σ)
      (hset : b.setUp s = (.ok (), s₁)) (hval : b.validate s₁ = (.error e, s₂)) :
      out = (b.tearDown s₂).1.map fun _ => ⟨(b.deviceName (b.tearDown s₂).2).1, false, []⟩ := by
    rw [(asks_run_invalid hset hval nofun).plain] at h
    cases h
    exact conclude_summary_apply false [] s₂
  obtain ⟨e, s₁, hset⟩ | ⟨s₁, v, s₂, hset, hval, hv⟩ | ⟨s₁, hvalid, hfull⟩ |
    ⟨hroom, i, hi, e, s₁, hbreaks⟩ | ⟨hroom, s₁, runs, s₂, hvalid, hruns⟩ := run_cases now b n s
  · have h : Asks (b.run now n) _ s _ _ _ := asks_run_unset hset
    have hcalls := requests_of_asks h
    exact ⟨_, _, h.plain, logged_run_of_asks h, .inl ⟨e, s₁, hset, hcalls⟩,
      ⟨[.setUp], hcalls, by decide⟩, hsummary h.plain, hinvalid h.plain⟩
  · have h : Asks (b.run now n) _ s _ _ _ := asks_run_invalid hset hval hv
    have hcalls := requests_of_asks h
    exact ⟨_, _, h.plain, logged_run_of_asks h, .inr (.inl ⟨s₁, v, s₂, hset, hval, hv, hcalls⟩),
      ⟨[.setUp, .validate], hcalls, by decide⟩, hsummary h.plain, hinvalid h.plain⟩
  · exact absurd (hroom s₁ hvalid) (Nat.not_lt.mpr hfull)
  · have h := asks_run_broken hroom hi hbreaks
    have hcalls := requests_of_asks h
    exact ⟨_, _, h.plain, logged_run_of_asks h, .inr (.inr (.inl ⟨i, hi, e, s₁, hbreaks, hcalls⟩)),
      ⟨.setUp :: .validate :: List.replicate (i + 1) .code, hcalls, by simp⟩, hsummary h.plain,
      hinvalid h.plain⟩
  · have h := asks_run_timed hroom hvalid hruns
    have hcalls := requests_of_asks h
    exact ⟨_, _, h.plain, logged_run_of_asks h,
      .inr (.inr (.inr ⟨s₁, runs, s₂, hvalid, hruns, hcalls⟩)),
      ⟨.setUp :: .validate :: List.replicate n .code, hcalls, by simp⟩, hsummary h.plain,
      hinvalid h.plain⟩

/-- A benchmark that has the same results whenever it is asked. -/
def scripted (setUp code : Except BenchError Unit) (validate : Except BenchError Bool)
    (tearDown : Except BenchError Unit) : Benchmark (StateM Unit) where
  setUp := pure setUp
  code := pure code
  validate := pure validate
  tearDown := pure tearDown
  deviceName := pure "CPU"

/-- Validation fails, so that there are no runs and the summary says that the result was wrong. -/
theorem run_requests_unvalidated :
    let b := scripted (.ok ()) (.ok ()) (.error (.notSetUp "validate")) (.ok ())
    (∀ s', b.Valid () s' → 2 < roomBound) ∧
      requests (pure 0) b 2 () = [.setUp, .validate, .tearDown] ∧
      b.run (pure 0) 2 () = (some (.ok ⟨"CPU", false, []⟩), ()) := by
  intro b
  have hroom : ∀ s', b.Valid () s' → 2 < roomBound := fun _ _ => by decide
  obtain ⟨out, s', hrun, -, -, -, -, hreport⟩ := run_requests (pure 0) b 2 () hroom
  refine ⟨hroom, rfl, ?_⟩
  rw [hrun, hreport () (.notSetUp "validate") () rfl rfl]
  rfl

/-- Where validating and tearing down both fail there is no summary. Where there is no room for the
durations nothing is torn down. -/
theorem unvalidated_without_summary :
    let b := scripted (.ok ()) (.ok ()) (.error (.notSetUp "validate"))
      (.error (.notSetUp "tear_down"))
    let c := scripted (.ok ()) (.ok ()) (.ok true) (.ok ())
    ((b.validate ()).1 = .error (.notSetUp "validate") ∧
      (b.run (pure 0) 1 ()).1 = some (.error (.notSetUp "tear_down")) ∧
      ∀ summary, (b.run (pure 0) 1 ()).1 ≠ some (.ok summary)) ∧
      requests (pure 0) c roomBound () = [.setUp, .validate] ∧
      (c.run (pure 0) roomBound ()).1 = none := by
  intro b c
  have hvalid : c.Valid () () := ⟨(), rfl, rfl⟩
  have h : Asks (c.run (pure 0) roomBound) _ () _ none () :=
    asks_run_stuck hvalid (by decide)
  refine ⟨⟨rfl, rfl, nofun⟩, requests_of_asks h, ?_⟩
  rw [h.plain]

/-- **Which failure is reported.** Where setting up fails, its error is reported, whether tearing
down fails as well or not. Where a timed run fails, its error is reported if tearing down succeeds;
if tearing down fails as well, the error of tearing down is reported in its place. There are timed
runs where there is room for their durations. -/
theorem reported_failure (now : StateM σ Nat) (b : Benchmark (StateM σ)) (n : Nat) (s : σ) :
    (∀ e s₁, b.setUp s = (.error e, s₁) → (b.run now n s).1 = some (.error e)) ∧
      (n < roomBound → ∀ i < n, ∀ e s₁, b.BreaksAt now s i e s₁ →
        (b.run now n s).1 = some (match (b.tearDown s₁).1 with
          | .ok () => .error e
          | .error e' => .error e')) := by
  constructor
  · intro e s₁ hset
    rw [(asks_run_unset hset).plain]
  · intro hroom i hi e s₁ hbreaks
    rw [(asks_run_broken hroom hi hbreaks).plain, conclude_apply]
    rcases b.tearDown s₁ with ⟨e' | u, s₂⟩ <;> rfl

/-- Setting up fails, and a run fails. -/
theorem reported_failure_first :
    let e := BenchError.notSetUp "first"
    let down := Except.error (BenchError.notSetUp "tear_down")
    ((scripted (.error e) (.ok ()) (.ok true) down).run (pure 0) 2 ()).1 = some (.error e) ∧
      ((scripted (.ok ()) (.error e) (.ok true) (.ok ())).run (pure 0) 2 ()).1 =
        some (.error e) := by
  intro e down
  obtain ⟨hset, -⟩ := reported_failure (pure 0) (scripted (.error e) (.ok ()) (.ok true) down) 2 ()
  obtain ⟨-, hcode⟩ :=
    reported_failure (pure 0) (scripted (.ok ()) (.error e) (.ok true) (.ok ())) 2 ()
  exact ⟨hset e () rfl,
    hcode (by decide) 0 (by decide) e () ⟨(), [], (), ⟨(), rfl, rfl⟩, rfl, rfl⟩⟩

/-- The first run fails, and so does tearing down. What is reported is not what went wrong first. -/
theorem failed_run_not_reported :
    let b := scripted (.ok ()) (.error (.notSetUp "code")) (.ok true)
      (.error (.notSetUp "tear_down"))
    b.BreaksAt (pure 0) () 0 (.notSetUp "code") () ∧
      (b.run (pure 0) 1 ()).1 = some (.error (.notSetUp "tear_down")) ∧
      (b.run (pure 0) 1 ()).1 ≠ some (.error (.notSetUp "code")) := by
  intro b
  have hrun : (b.run (pure 0) 1 ()).1 = some (.error (.notSetUp "tear_down")) := rfl
  refine ⟨⟨(), [], (), ⟨(), rfl, rfl⟩, rfl, rfl⟩, hrun, ?_⟩
  rw [hrun]
  exact fun h => absurd (Except.error.inj (Option.some.inj h)) (by decide)

end Offload.Benchmark
