/-!
# Columns

A table cell is a text filled up with spaces to a given number of characters. A text that is
already longer is left as it is.
-/

namespace Offload.Text

/-- Fill up with spaces on the right. -/
def padRight (width : Nat) (s : String) : String :=
  s ++ String.ofList (List.replicate (width - s.length) ' ')

/-- Fill up with spaces on the left. -/
def padLeft (width : Nat) (s : String) : String :=
  String.ofList (List.replicate (width - s.length) ' ') ++ s

end Offload.Text
