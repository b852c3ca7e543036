import ClusterSurvey.Recording.Recorder

/-!
Work that is repeated at every tick of an interval, and tried again after growing waits while it
fails. Times are milliseconds since the start. Ticks that pass during the waits are made up for at
once.
-/
namespace ClusterSurvey.Recording

def waits : List Nat := [1000, 1500, 2250]

structure Repetition where
  period : Nat
  /-- When the next tick is due. -/
  tick : Nat
  /-- The waits that are left, and the end of the present one, if the work failed last time. -/
  retry : Option (List Nat × Nat)
  deriving DecidableEq, Repr

namespace Repetition

def start (period : Nat) : Repetition := ⟨period, period, none⟩

def due (r : Repetition) (now : Nat) (wanted : Bool) : Nat :=
  match r.retry with
  | some (_, time) => max now time
  | none => if wanted then now else max now r.tick

/-- Whether work that begins at a time does so because of a wish and not because of a tick. -/
def isWish (r : Repetition) (time : Nat) : Bool := r.retry.isNone && time < r.tick

def waitsLeft (r : Repetition) : List Nat := (r.retry.map (·.1)).getD waits

def begin (r : Repetition) (time : Nat) : Repetition :=
  if r.retry.isNone && r.tick ≤ time then { r with tick := r.tick + r.period } else r

/-- After work that began at a time: a failure is followed by the next wait, if there is one
left. -/
def after (r : Repetition) (left : List Nat) (time : Nat) (failed : Bool) : Repetition :=
  match failed, left with
  | true, wait :: rest => { r with retry := some (rest, time + wait) }
  | _, _ => { r with retry := none }

end Repetition

structure Job where
  heedsWishes : Bool
  work : Recorder → Bool × Recorder

namespace Job

def flushing (now : Instant) : Job where
  heedsWishes := true
  work s :=
    let (result, s) := s.flush (.calm false) now
    (result.toBool, s)

/-- The time up to which archives are deleted: when reports were sent last, but not before the
greatest age. -/
def cutoff (now lastReported : Instant) (maxAge : Nat) : Instant :=
  Instant.latest lastReported (now.minusMillis maxAge)

def longestSpan : Nat := 9223372036854775807

/-- The greatest age of an archive for a recorder with a greatest age: that one, or 365 days if it
is too long. -/
def pruneAge (maxAge : Nat) : Nat := if maxAge ≤ longestSpan then maxAge else 365 * 86400000

def pruning (now lastReported : Instant) : Job where
  heedsWishes := false
  work s :=
    let (result, s) := s.prune (fun _ => none) (cutoff now lastReported (pruneAge s.maxAge))
    (result.toBool, s)

end Job

/-- The time between two rounds of pruning: two intervals and up to a fifth more, given in
thousandths. -/
def prunePeriod (interval jitter : Nat) : Nat := interval * 2 * (1000 + min jitter 200) / 1000

structure Timeline where
  job : Job
  repetition : Repetition
  now : Nat
  recorder : Recorder

namespace Timeline

def wanted (t : Timeline) : Bool := t.job.heedsWishes && t.recorder.flushWanted

def round (t : Timeline) (time : Nat) : Timeline :=
  let s := t.recorder
  let s :=
    if t.job.heedsWishes && t.repetition.isWish time then { s with flushWanted := false } else s
  let (worked, s) := t.job.work s
  { t with
    repetition := (t.repetition.begin time).after t.repetition.waitsLeft time (!worked)
    now := time
    recorder := s }

def run : (fuel : Nat) → (goal : Nat) → Timeline → Timeline
  | 0, goal, t => { t with now := max t.now goal }
  | fuel + 1, goal, t =>
    let time := t.repetition.due t.now t.wanted
    if goal < time then { t with now := max t.now goal } else run fuel goal (t.round time)

/-- More rounds than there can be until a time: four for each tick, and for a wish. -/
def roundBound (t : Timeline) (goal : Nat) : Nat := 4 * (goal / max t.repetition.period 1 + 3)

def advance (goal : Nat) (t : Timeline) : Timeline :=
  if goal ≤ t.now then t else run (t.roundBound goal) goal t

end Timeline

/-- The end of the loop of flushes: what waits is written, whether or not the run was cancelled. -/
def Recorder.shutDown (now : Instant) (s : Recorder) : Recorder := (s.flush (.calm false) now).2

/-- The loop of flushes in a run that was cancelled before: what waits is written once. There is one
such loop at most. -/
def Recorder.loopCancelled (now : Instant) (s : Recorder) : Recorder :=
  if s.looping then s else Recorder.shutDown now { s with looping := true }

end ClusterSurvey.Recording
