import Offload.Duration
import Offload.Text.Column

/-!
# Profiles

A profile has one sample for every node that was completed. Samples accumulate over the runs of
a graph until they are cleared.

How long a node took is measured by a clock of the caller, and nothing depends on it: the times are
no part of the profile, and what is told about them is a function of what the clock has measured for
each sample.
-/

namespace Offload

/-- What a node does. -/
inductive NodeKind where
  /-- copies to the device every time -/
  | streamIn
  /-- copies to the device what is stale -/
  | copyIn
  /-- launches a kernel -/
  | task
  /-- copies to the host every time -/
  | streamOut
  /-- waits for the device -/
  | barrier
deriving DecidableEq

/-- The name of the kind. -/
def NodeKind.name : NodeKind → String
  | streamIn => "stream_in"
  | copyIn => "copy_in"
  | task => "task"
  | streamOut => "stream_out"
  | barrier => "barrier"

namespace NodeKind

/-- Every kind. -/
def all : List NodeKind := [streamIn, copyIn, task, streamOut, barrier]

/-- The kind of a name. -/
def ofName? (s : String) : Option NodeKind := all.find? (·.name == s)

/-- Every name belongs to the kind that it came from. -/
theorem ofName?_name (k : NodeKind) : ofName? k.name = some k := by
  cases k <;> decide

end NodeKind

/-- A completed node. -/
structure Sample where
  /-- the node with its graph -/
  node : String
  /-- what the node does -/
  kind : NodeKind
  /-- the run that it belongs to, counted from one -/
  run : Nat
  /-- the number of bytes copied -/
  bytes : Nat
deriving DecidableEq

/-- What a clock has measured for a completed node, in nanoseconds. -/
structure Timing where
  /-- the time from the start of the run to the start of the node -/
  submitted : Nat
  /-- the time that the device took -/
  device : Nat
  /-- the time that the node took as a whole -/
  total : Nat

/-- A log of completed nodes. -/
structure Profile where
  /-- the samples, in the order in which the nodes were completed -/
  samples : Array Sample
deriving DecidableEq, Inhabited

namespace Sample

/-- A number of nanoseconds in microseconds, with three places. -/
def microsText (nanos : Nat) : String :=
  (secondsOf nanos * Double.ofCount 1000000).fixed 3

/-- A line of the table. -/
def line (run node kind submitted device total bytes : String) : String :=
  Text.padLeft 4 run ++ "  " ++ Text.padRight 32 node ++ " " ++ Text.padRight 10 kind ++ " " ++
    Text.padLeft 12 submitted ++ " " ++ Text.padLeft 12 device ++ " " ++ Text.padLeft 12 total ++
    " " ++ Text.padLeft 10 bytes

/-- The sample as a line of the table. -/
def text (s : Sample) (t : Timing) : String :=
  line (Decimal.text s.run) s.node s.kind.name (microsText t.submitted) (microsText t.device)
    (microsText t.total) (Decimal.text s.bytes)

end Sample

namespace Profile

/-- No samples. -/
def empty : Profile := ⟨#[]⟩

/-- Add a sample. -/
def record (p : Profile) (s : Sample) : Profile := ⟨p.samples.push s⟩

/-- The device time of all nodes of a kind. -/
def deviceTime (p : Profile) (k : NodeKind) (times : Nat → Timing) : Nat :=
  ((p.samples.toList.zipIdx.filter (·.1.kind == k)).map fun x => (times x.2).device).foldr (· + ·) 0

/-- The lines of the table: a title, the heads of the columns, and a line for each sample. -/
def lines (p : Profile) (graph : String) (times : Nat → Timing) : List String :=
  ["profile for '" ++ graph ++ "' (" ++ Decimal.text p.samples.size ++ " samples)",
    Sample.line "run" "node" "kind" "submit_us" "device_us" "total_us" "bytes"] ++
    p.samples.toList.zipIdx.map fun x => x.1.text (times x.2)

/-- The table as text. -/
def text (p : Profile) (graph : String) (times : Nat → Timing) : String :=
  String.join ((p.lines graph times).map (· ++ "\n"))

/-- A sample that was added is the last one. -/
@[simp] theorem samples_record (p : Profile) (s : Sample) :
    (p.record s).samples = p.samples.push s := rfl

end Profile

end Offload
