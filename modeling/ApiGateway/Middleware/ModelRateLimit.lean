import Mathlib.Data.Rat.Floor

/-!
# The limiter of model requests

With Redis, the requests of a user are limited by a token bucket that a script keeps in the
database. The script is run as a whole, and its clock counts seconds. The handler asks for
`duration` tokens for each request and lets `totalMaxCount` tokens drip in every second.
-/

namespace ApiGateway

/-- `limiter.Config` -/
structure LimiterConfig where
  capacity : Int := 10
  rate : Int := 1
  requested : Int := 1

/-- The hash that the script keeps under its key. -/
structure TokenBucket where
  tokens : Int
  lastTime : Int
  deriving DecidableEq

variable (config : LimiterConfig)

/-- The tokens that the script finds at time `now`; a bucket that is not there yet is full. -/
def LimiterConfig.level (now : Int) : Option TokenBucket → Int
  | none => config.capacity
  | some bucket =>
    min config.capacity (bucket.tokens + (now - bucket.lastTime) * config.rate)

/-- `rate_limit.lua`: whether the request is allowed, and the bucket it leaves. -/
def LimiterConfig.allow (now : Int) (bucket : Option TokenBucket) :
    Bool × TokenBucket :=
  let tokens := config.level now bucket
  if tokens ≥ config.requested then (true, { tokens := tokens - config.requested, lastTime := now })
  else (false, { tokens := tokens, lastTime := now })

/-- The options of `redisRateLimitHandler`. -/
def totalLimit (duration totalMaxCount : Int) : LimiterConfig where
  capacity := totalMaxCount * duration
  rate := totalMaxCount
  requested := duration

/-- The bucket of a user, and the times of the requests it has let through. -/
structure LimitedUser where
  bucket : Option TokenBucket := none
  passed : List Int := []

/-- One request of the user. -/
def LimitedUser.request (user : LimitedUser) (now : Int) : LimitedUser :=
  let (allowed, bucket) := config.allow now user.bucket
  { bucket := some bucket, passed := if allowed then now :: user.passed else user.passed }

/-- The user after requests at these times. -/
def requestsAt (times : List Int) : LimitedUser :=
  times.foldl (LimitedUser.request config) {}

end ApiGateway
