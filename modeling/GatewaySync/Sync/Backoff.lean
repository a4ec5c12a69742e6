/-!
# Retry delays

Each failure of an object doubles its delay, up to a maximum. Counts, powers and delays are words:
counts and powers stop at their largest value, and a delay that does not fit is the maximum.
-/
namespace GatewaySync

/-- The failures of each object since its last success. -/
structure Backoff where
  failures : List (String × UInt32)

namespace Backoff

def empty : Backoff := ⟨[]⟩

def count (b : Backoff) (key : String) : UInt32 :=
  ((b.failures.find? (·.1 = key)).map (·.2)).getD 0

def reset (b : Backoff) (key : String) : Backoff := ⟨b.failures.filter (·.1 != key)⟩

def limit : UInt32 := 0xFFFFFFFF

/-- One more, unless the count is at its limit. -/
def increment (n : UInt32) : UInt32 := if n = limit then n else n + 1

/-- Two to the given power, or the limit if it does not fit. -/
def factor (n : UInt32) : UInt32 := if n < 32 then 1 <<< n else limit

/-- The product of two words if it is one. -/
def product? (a b : UInt64) : Option UInt64 :=
  if b = 0 ∨ a ≤ 0xFFFFFFFFFFFFFFFF / b then some (a * b) else none

def delay (initial maximum : UInt64) (n : UInt32) : UInt64 :=
  min ((product? initial (factor n).toUInt64).getD maximum) maximum

/-- Counts a failure of a key and gives the delay before its next attempt. -/
def next (b : Backoff) (initial maximum : UInt64) (key : String) : UInt64 × Backoff :=
  let n := b.count key
  (delay initial maximum n, ⟨(key, increment n) :: (b.reset key).failures⟩)

end Backoff

end GatewaySync
