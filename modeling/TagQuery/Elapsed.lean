import TagQuery.Diagnostics
import TagQuery.Number.Rounding

/-!
# Elapsed time

How the time of a run is told: in seconds with three decimal places, or in minutes with two once
more than 59 seconds have passed. The seconds are a double-precision number, made from whole
seconds and nanoseconds with a rounding at each step.
-/

namespace TagQuery

/-- A span of time. -/
structure Elapsed where
  seconds : Nat
  nanoseconds : Nat
deriving DecidableEq, Repr

namespace Elapsed

open Number

/-- The span in seconds. -/
def inSeconds (elapsed : Elapsed) : Fraction :=
  roundToDouble (.add (roundToDouble ⟨elapsed.seconds, 1⟩)
    (roundToDouble ⟨elapsed.nanoseconds, 1000000000⟩))

/-- The span in words. -/
def render (elapsed : Elapsed) : Text :=
  let seconds := elapsed.inSeconds
  if seconds.exceeds 59 then
    fixed 2 (roundToDouble (seconds.divideBy 60)) ++ " minutes".toList
  else fixed 3 seconds ++ " seconds".toList

/-- The summary of a run that took the span and came upon the diagnostics. -/
def summary (elapsed : Elapsed) (diagnostics : Diagnostics) : Text :=
  "Scraper finished in ".toList ++ elapsed.render ++
    if diagnostics.isEmpty then []
    else " (".toList ++ (Nat.repr diagnostics.size).toList ++ " skipped)".toList

end Elapsed

end TagQuery
