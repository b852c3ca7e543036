import ClusterSurvey.Time.Calendar

/-!
Points in time, in seconds of UTC and nanoseconds. A leap second shares the count of the second
before it and has a thousand million nanoseconds or more, so instants are ordered by the pair.
-/
namespace ClusterSurvey

/-- A point in time: whole seconds since 1970-01-01T00:00:00Z and nanoseconds, of which a leap
second has at least a thousand million. -/
structure Instant where
  second : Int
  nano : Nat
  deriving DecidableEq, Repr, Inhabited

namespace Instant

def nanosPerSecond : Nat := 1000000000

def secondsPerDay : Int := 86400

def ofSeconds (s : Int) : Instant := ⟨s, 0⟩

def earliest : Instant := ⟨-8334601228800, 0⟩

def lt (a b : Instant) : Prop := a.second < b.second ∨ (a.second = b.second ∧ a.nano < b.nano)

instance : LT Instant := ⟨lt⟩

instance (a b : Instant) : Decidable (a < b) :=
  inferInstanceAs (Decidable (a.second < b.second ∨ (a.second = b.second ∧ a.nano < b.nano)))

def le (a b : Instant) : Prop := ¬ b < a

instance : LE Instant := ⟨le⟩

instance (a b : Instant) : Decidable (a ≤ b) := inferInstanceAs (Decidable (¬ b < a))

def latest (a b : Instant) : Instant := if b < a then a else b

def isLeap (t : Instant) : Bool := nanosPerSecond ≤ t.nano

def day (t : Instant) : Int := t.second / secondsPerDay

def secondOfDay (t : Instant) : Nat := (t.second % secondsPerDay).toNat

/-- The nanoseconds from `b` to `a`. A leap second that lies between them on the clock of the day
counts. -/
def since (a b : Instant) : Int :=
  let leap : Int :=
    if b.secondOfDay < a.secondOfDay ∧ b.isLeap then 1
    else if a.secondOfDay < b.secondOfDay ∧ a.isLeap then -1
    else 0
  (a.second - b.second + leap) * nanosPerSecond + ((a.nano : Int) - b.nano)

/-- The instant a positive number of whole seconds earlier; a leap second counts as the second after
it. -/
def before (t : Instant) (seconds : Nat) : Instant :=
  if t.isLeap then ⟨t.second + 1 - seconds, t.nano - nanosPerSecond⟩
    else ⟨t.second - seconds, t.nano⟩

/-- The instant a number of milliseconds earlier; a leap second counts as the second after it. -/
def minusMillis (t : Instant) (millis : Nat) : Instant :=
  let nanos := t.second * nanosPerSecond + t.nano - millis * 1000000
  ⟨nanos / nanosPerSecond, (nanos % nanosPerSecond).toNat⟩

end Instant

end ClusterSurvey
