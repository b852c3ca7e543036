import ClusterSurvey.Recording.Archive

/-!
A recorder: a buffer of records and the directory that it is written to. A flush takes a snapshot of
the records that wait, writes it, and then drops the bytes of those records that were not replaced
meanwhile; each of the three steps can also be taken alone. A record that fills the buffer leaves a
mark that a flush is wanted.
-/
namespace ClusterSurvey.Recording

structure Recorder where
  bounds : Bounds
  /-- The interval between flushes, in milliseconds. -/
  interval : Nat
  buffer : Buffer
  storage : Option Directory
  /-- Whether a flush is wanted before the interval is over. -/
  flushWanted : Bool
  /-- Whether the loop of flushes was started. -/
  looping : Bool

namespace Recorder

def start (bounds : Bounds) (interval : Nat) : Recorder :=
  ⟨bounds, interval, .empty, some .empty, false, false⟩

def record (now : Instant) (r : Record) (s : Recorder) :
    Except GatherError (List String) × Recorder :=
  let (reception, buffer) := s.buffer.record s.bounds now r
  (reception.result, { s with buffer, flushWanted := s.flushWanted || reception.asksForFlush })

def pending (s : Recorder) : Nat × Nat := (s.buffer.pending.length, s.buffer.size)

def newest? (records : List Kept) : Option Instant :=
  match records with
  | [] => none
  | k :: rest => some (rest.foldl (fun t k => Instant.latest t k.capturedAt) k.capturedAt)

/-- Writes the records of a snapshot: the name of the archive, if there is something to write and
its name is free. -/
def write (w : Circumstances) (now : Instant) (snapshot : List Kept) (s : Recorder) :
    Except GatherError (Option String) × Recorder :=
  match newest? snapshot with
  | none => (.ok none, s)
  | some newest =>
    let name := archiveName newest
    let (result, storage) := writeArchive w now name snapshot s.storage
    (result.map fun written => if written then some name else none, { s with storage })

def clear (snapshot : List Kept) (s : Recorder) : Recorder :=
  { s with buffer := s.buffer.clear snapshot }

/-- Writes all records that wait. They wait on if that fails or the name of the archive is taken. -/
def flush (w : Circumstances) (now : Instant) (s : Recorder) :
    Except GatherError (Option String) × Recorder :=
  let snapshot := s.buffer.pending
  match s.write w now snapshot with
  | (.ok (some name), s) => (.ok (some name), s.clear snapshot)
  | (result, s) => (result, s)

def maxAge (s : Recorder) : Nat := s.interval * 6 * 24

def prune (kept : String → Option String) (olderThan : Instant) (s : Recorder) :
    Except GatherError Nat × Recorder :=
  let (result, storage) := Recording.prune kept olderThan s.storage
  (result, { s with storage })

def summary (since : Instant) (s : Recorder) : Except GatherError (Option (String × Content)) :=
  newestArchive since s.storage

end Recorder

end ClusterSurvey.Recording
