import Mathlib.Logic.Function.Basic

/-!
# The limiter in memory

Without Redis, all limits share one limiter. For each key it keeps the times of the requests it
has accepted last. A request or a round of the cleanup holds the lock all the time.
-/

namespace ApiGateway

open Function

/-- The queues, with the oldest time first, and all the times that were ever accepted. -/
structure InMemoryRateLimiter where
  store : String → Option (List Int) := fun _ => none
  accepted : String → List Int := fun _ => []

namespace InMemoryRateLimiter

/-- The queue that a request leaves, or nothing if it is rejected. -/
def nextQueue (queue : Option (List Int)) (maxRequestNum : Nat) (duration now : Int) :
    Option (List Int) :=
  match queue with
  | none => some [now]
  | some queue =>
    if queue.length < maxRequestNum then some (queue ++ [now])
    else
      match queue with
      | [] => none
      | oldest :: rest => if now - oldest ≥ duration then some (rest ++ [now]) else none

def request (key : String) (maxRequestNum : Nat) (duration now : Int) (l : InMemoryRateLimiter) :
    InMemoryRateLimiter :=
  match nextQueue (l.store key) maxRequestNum duration now with
  | none => l
  | some queue =>
    { store := update l.store key (some queue)
      accepted := update l.accepted key (l.accepted key ++ [now]) }

/-- A round of `clearExpiredItems`, with the expiration in seconds. -/
def clearExpiredItems (expiration now : Int) (l : InMemoryRateLimiter) : InMemoryRateLimiter :=
  { l with store := fun key => (l.store key).filter fun queue =>
      queue.getLast?.any fun last => now - last ≤ expiration }

end InMemoryRateLimiter

inductive LimiterEvent where
  | request (key : String) (maxRequestNum : Nat) (duration : Int)
  | clear

/-- One event at time `now`. The cleanup only runs if there is an expiration, in nanoseconds. -/
def limiterStep (expirationDuration : Int) (l : InMemoryRateLimiter) :
    Int × LimiterEvent → InMemoryRateLimiter
  | (now, .request key maxRequestNum duration) => l.request key maxRequestNum duration now
  | (now, .clear) => if 0 < expirationDuration then
      l.clearExpiredItems (expirationDuration / 1000000000) now else l

end ApiGateway
