import Offload.Binary.Double

/-!
# Durations

A duration is a whole number of nanoseconds. For display it is turned into seconds.
-/

namespace Offload

/-- Nanoseconds in a second. -/
def nanosPerSecond : Nat := 1000000000

/-- A number of nanoseconds in seconds: whole seconds and the rest are rounded each on its
own. -/
def secondsOf (nanos : Nat) : Double :=
  Double.ofCount (nanos / nanosPerSecond) +
    Double.ofCount (nanos % nanosPerSecond) / Double.ofCount nanosPerSecond

end Offload
