import Mathlib.Tactic.Common

/-!
# Instants and durations with chrono's limits

Instants and durations are integers of microseconds, the resolution of a
`timestamptz`. The constructors of a duration and the sum of an instant and a
duration panic out of their ranges: `none` here.
-/

namespace LightbridgeAuthz.Library.ChronoTime

set_option autoImplicit false

/-- `Duration::seconds`: at most `i64::MAX` milliseconds either way. -/
def durationSeconds (seconds : Int) : Option Int :=
  if seconds.natAbs ≤ 9223372036854775 then some (seconds * 1000000) else none

def durationDays (days : Int) : Option Int := durationSeconds (days * 86400)

/-- `DateTime::<Utc>::MIN_UTC`, the first instant of the year -262143. -/
def minUtc : Int := -8334601228800000000

/-- `DateTime::<Utc>::MAX_UTC`, the last instant of the year 262142. -/
def maxUtc : Int := 8210266876799999999

/-- `now + duration`. -/
def addDuration (now : Int) (duration : Option Int) : Option Int :=
  duration.bind fun length =>
    if minUtc ≤ now + length ∧ now + length ≤ maxUtc then some (now + length) else none

/-- `now + Duration::seconds(seconds)`. -/
def afterSeconds (now seconds : Int) : Option Int := addDuration now (durationSeconds seconds)

/-- `now + Duration::days(days)`. -/
def afterDays (now days : Int) : Option Int := addDuration now (durationDays days)

theorem after_seconds_some {now seconds later : Int}
    (added : afterSeconds now seconds = some later) : later = now + seconds * 1000000 := by
  unfold afterSeconds addDuration durationSeconds at added
  split at added
  · simp only [Option.bind_some, Option.ite_none_right_eq_some, Option.some.injEq] at added
    exact added.2.symm
  · cases added

end LightbridgeAuthz.Library.ChronoTime
