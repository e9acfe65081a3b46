import DeviceBus.Duration

/-! # When to send again

The wait for an answer doubles with each transmission, up to the seventeenth.
-/

namespace DeviceBus.Observe

structure RetryPolicy where
  maxAttempts : Nat := 3
  baseDelay : Duration := Duration.ofSeconds 2
  deriving DecidableEq

namespace RetryPolicy

/-- How long to wait after a transmission; the first one has number zero. -/
def delay (p : RetryPolicy) (attempt : Nat) : Duration :=
  p.baseDelay.scale (Nat.pow 2 (min attempt 16))

def describe (p : RetryPolicy) : String :=
  "RetryPolicy \x7b max_attempts: " ++ toString p.maxAttempts ++ ", base_delay: " ++
    p.baseDelay.text ++ " \x7d"

end RetryPolicy

end DeviceBus.Observe
