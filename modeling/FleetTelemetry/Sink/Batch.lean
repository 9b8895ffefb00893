/-!
# Batches

Observations are delivered in batches of at most a given size, in order; a size of zero is
taken as one, so every observation is delivered.
-/

namespace FleetTelemetry

/-- The batch size a poll cycle uses unless told otherwise. -/
def batchSize : Nat := 200

/-- Consecutive runs of `k + 1` elements, the last one possibly shorter. -/
def chunksOfSucc (k : Nat) : List α → List (List α)
  | [] => []
  | x :: xs => (x :: xs).take (k + 1) :: chunksOfSucc k ((x :: xs).drop (k + 1))
termination_by xs => xs.length
decreasing_by simp only [List.length_drop, List.length_cons]; omega

/-- The batches of a list for a size (zero counting as one). -/
def batches (size : Nat) (xs : List α) : List (List α) := chunksOfSucc (size - 1) xs

end FleetTelemetry
