import Offload.Bench.Runner

/-!
# Spans of time

A duration is kept as a number of whole seconds and the nanoseconds of the second that has begun.
There are 64 bits for the seconds, so there may be no room for a sum. A share of a duration is
worked out from its seconds and nanoseconds apart: both are divided, and what is left of them is put
together and divided once more.

* `Span.total` — a duration in nanoseconds.
* `Span.add?`, `Span.sum?` — the sum of two and of any number of durations, where there is room.
* `Span.share` — one of a number of equal shares, rounded down.
* `Span.shortest`, `Span.perRun?` — the shortest of the runs of a benchmark, and the mean of all.
-/

namespace Offload

/-- A duration as it is kept. -/
structure Span where
  /-- whole seconds -/
  secs : Nat
  /-- nanoseconds of a second that has begun -/
  nanos : Nat
  /-- there is room for the seconds -/
  secs_lt : secs < Nat.pow 2 64
  /-- the second is not over -/
  nanos_lt : nanos < nanosPerSecond
deriving DecidableEq

namespace Span

/-- A duration in nanoseconds. -/
def total (d : Span) : Nat := d.secs * nanosPerSecond + d.nanos

/-- The least number of nanoseconds for which there is no room. -/
def bound : Nat := Nat.pow 2 64 * nanosPerSecond

/-- No time. -/
def zero : Span := ⟨0, 0, by decide, by decide⟩

/-- Seconds and nanoseconds, if there is room for the seconds. -/
def ofParts? (secs nanos : Nat) (h : nanos < nanosPerSecond) : Option Span :=
  if hs : secs < Nat.pow 2 64 then some ⟨secs, nanos, hs, h⟩ else none

/-- The sum of two durations, if there is room for it. -/
def add? (d e : Span) : Option Span :=
  if h : d.nanos + e.nanos < nanosPerSecond then ofParts? (d.secs + e.secs) (d.nanos + e.nanos) h
  else ofParts? (d.secs + e.secs + 1) (d.nanos + e.nanos - nanosPerSecond)
    (by have := d.nanos_lt; have := e.nanos_lt; omega)

/-- The sum of some durations, if there is room for it. -/
def sum? (ds : List Span) : Option Span := ds.foldlM add? zero

/-- The nanoseconds of a share are fewer than those of a second: the rest of the seconds is less
than the number of shares. -/
theorem share_nanos_lt (d : Span) {n : Nat} (hn : 0 < n) :
    d.nanos / n + (d.secs % n * nanosPerSecond + d.nanos % n) / n < nanosPerSecond := by
  have hrest : d.secs % n * nanosPerSecond + nanosPerSecond ≤ n * nanosPerSecond := by
    rw [← Nat.succ_mul]
    exact Nat.mul_le_mul_right _ (Nat.mod_lt _ hn)
  have hnanos : n * (d.nanos / n) + d.nanos % n = d.nanos := Nat.div_add_mod _ _
  have hlt := d.nanos_lt
  rw [← Nat.mul_add_div hn, Nat.div_lt_iff_lt_mul hn, Nat.mul_comm nanosPerSecond]
  omega

/-- One of `n` equal shares, rounded down. -/
def share (d : Span) (n : Nat) (hn : 0 < n) : Span where
  secs := d.secs / n
  nanos := d.nanos / n + (d.secs % n * nanosPerSecond + d.nanos % n) / n
  secs_lt := Nat.lt_of_le_of_lt (Nat.div_le_self _ _) d.secs_lt
  nanos_lt := d.share_nanos_lt hn

/-- The shorter one of two durations. -/
def shorter (d e : Span) : Span :=
  if e.secs < d.secs ∨ e.secs = d.secs ∧ e.nanos < d.nanos then e else d

/-- The shortest one of some durations; no time if there is none. -/
def shortest : List Span → Span
  | [] => zero
  | d :: ds => ds.foldl shorter d

/-- The mean of some durations, if there is room for their sum. Nothing is divided by a number that
is zero or has more than 32 bits. -/
def perRun? (ds : List Span) : Option Span :=
  if h : 0 < ds.length ∧ ds.length < Bench.Summary.countBound then
    (sum? ds).map (·.share ds.length h.1)
  else some zero

end Span

end Offload
