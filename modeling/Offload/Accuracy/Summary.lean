import Offload.Accuracy.Distance

/-!
# Summaries of distances

The distances between two lists of results in four numbers. A negative average is no average
of distances, so it marks the comparison of two things that have different shapes.
-/

namespace Offload.Accuracy

/-- Average, least and greatest distance, and standard deviation. -/
structure Summary where
  /-- the average distance, negative where the shapes differ -/
  average : Single
  /-- the least distance -/
  least : Single
  /-- the greatest distance -/
  greatest : Single
  /-- the standard deviation of the distances -/
  deviation : Single
deriving DecidableEq, Inhabited

namespace Summary

/-- The summary of two things that cannot be compared. -/
def mismatch : Summary :=
  ⟨⟨0xBF800000⟩, Single.zero, Single.zero, Single.zero⟩

/-- The summary of no distances. -/
def none : Summary :=
  ⟨Single.zero, Single.zero, Single.zero, Single.zero⟩

/-- The summary of a list of distances. -/
def ofDistances (ds : List Single) : Summary :=
  let count := Single.ofCount ds.length
  let average := ds.foldl (· + ·) Single.zero / count
  let squares := ds.map fun d => (d - average) * (d - average)
  { average
    least := ds.foldl Single.min Single.greatest
    greatest := ds.foldl Single.max Single.zero
    deviation := (Single.sum squares / count).sqrt }

/-- The summary of the distances of paired elements. -/
def compare (values reference : List Single) : Summary :=
  if values.length ≠ reference.length then mismatch
  else if values.isEmpty then none
  else ofDistances (distances values reference)

/-- Whether the things compared have different shapes. -/
def isMismatch (s : Summary) : Bool :=
  s.average.lt Single.zero

/-- Whether the shapes agree and every distance is below the threshold. -/
def within (s : Summary) (threshold : Single) : Bool :=
  !s.isMismatch && s.greatest.lt threshold

/-- The summary as text, with three decimal places. -/
def text (s : Summary) : String :=
  "ulp: average=" ++ s.average.fixed 3 ++ ", min=" ++ s.least.fixed 3 ++
    ", max=" ++ s.greatest.fixed 3 ++ ", std. dev=" ++ s.deviation.fixed 3

end Summary

end Offload.Accuracy
