/-!
Sets of characters as tables. A set is the ascending list of the ends of its intervals, so that a
number lies in the set when it is at or above the first end of an interval and below the second.
-/
namespace ClusterSurvey.Text

/-- Whether `n` lies in one of the half-open intervals whose ends are listed in ascending order. -/
def within : List Nat → Nat → Bool
  | low :: high :: rest, n => low ≤ n && (n < high || within rest n)
  | _, _ => false

/-- A map of numbers: each `step`-th number from `low` to `high` is moved by `delta`. -/
structure Shift where
  low : Nat
  high : Nat
  step : Nat
  delta : Int

def Shift.moves (s : Shift) (n : Nat) : Bool := s.low ≤ n && n ≤ s.high && (n - s.low) % s.step == 0

def Shift.image (s : Shift) (n : Nat) : Nat := (n + s.delta).toNat

def moved : List Shift → Nat → Nat
  | [], n => n
  | s :: rest, n => if n < s.low then n else if s.moves n then s.image n else moved rest n

end ClusterSurvey.Text
