import Roster.Number.Double

/-!
# Moments

The clock counts microseconds. Whoever asks for the time in seconds gets the nearest double; written
into a token is what is left of it without the fraction, and a whole number of seconds is compared
with the double itself, which is the same as comparing it with the last whole second before.
-/

namespace Roster

structure Moment where
  /-- Microseconds since the beginning of 1970. -/
  micros : Int
  deriving DecidableEq

namespace Moment

def microsPerSecond : Nat := 1000000

def ofSeconds (seconds : Int) : Moment :=
  ⟨seconds * microsPerSecond⟩

instance (seconds : Nat) : OfNat Moment seconds := ⟨ofSeconds seconds⟩

def later (moment : Moment) (hours : Int) : Moment :=
  ⟨moment.micros + 3600 * hours * microsPerSecond⟩

def timestamp (moment : Moment) : Double :=
  .ofQuotient (moment.micros < 0) moment.micros.natAbs microsPerSecond

/-- The second that a token names for the moment. -/
def written (moment : Moment) : Int :=
  moment.timestamp.truncate?.getD 0

/-- The last whole second that the moment is not before. -/
def second (moment : Moment) : Int :=
  moment.timestamp.floor?.getD 0

end Moment

end Roster
