import ClusterSurvey.Keyed
import ClusterSurvey.Record.Basic

/-!
Records that wait to be written. A record that was written stays without its bytes, so that the same
content is not written again; the buffer knows the number of all bytes that wait and takes no record
that would exceed its bound, except the one that describes the run itself.
-/
namespace ClusterSurvey.Recording

/-- What is kept of a record. Its bytes are dropped once they were written. -/
structure Kept where
  fileName : String
  fingerprint : String
  capturedAt : Instant
  data : Option Bytes
  deriving DecidableEq, Repr

namespace Kept

def size (k : Kept) : Nat := (k.data.map List.length).getD 0

def isPending (k : Kept) : Bool := k.data.isSome

def settled (k : Kept) : Kept := { k with data := none }

/-- Whether two stand for the same capture of a record. -/
def sameCapture (a b : Kept) : Bool := a.capturedAt = b.capturedAt && a.fingerprint = b.fingerprint

end Kept

structure Bounds where
  archive : Nat
  flush : Nat
  deriving DecidableEq, Repr

/-- The records by file name, in ascending order of the names, and the number of bytes that wait. -/
structure Buffer where
  kept : List (String × Kept)
  size : Nat
  deriving DecidableEq, Repr

inductive Reception where
  /-- It has the content that was recorded last under its name. -/
  | unchanged
  /-- It waits to be written; `full` tells whether the buffer asks to be. -/
  | accepted (warnings : List String) (full : Bool)
  /-- It would not fit. -/
  | tooLarge (fileName : String) (size bound : Nat)
  /-- It has no bytes. -/
  | unreadable (cause : GatherError)
  deriving DecidableEq, Repr

namespace Reception

def asksForFlush : Reception → Bool
  | accepted _ full => full
  | tooLarge .. => true
  | _ => false

def result : Reception → Except GatherError (List String)
  | unchanged => .ok []
  | accepted warnings _ => .ok warnings
  | tooLarge fileName size bound =>
    .error (.recorder ("record " ++ fileName
      ++
        s!"(size={size}) exceeds the archive size limit {bound} and will not be included in the archive"))
  | unreadable cause => .error cause

end Reception

namespace Buffer

/-- The name of the record about the run itself. It is taken whatever its size. -/
def runRecordName : String := "insights-operator/gathers"

def empty : Buffer := ⟨[], 0⟩

def get? (b : Buffer) (fileName : String) : Option Kept := b.kept.lookup fileName

def pending (b : Buffer) : List Kept := (b.kept.map (·.2)).filter Kept.isPending

def overwriting (fileName fingerprint : String) (old : Option Kept) : List String :=
  match old.filter Kept.isPending with
  | some k =>
    ["the record with the same name \"" ++ fileName
      ++ "\" was already recorded and had the fingerprint \""
      ++ k.fingerprint ++ "\", overwriting with the record having fingerprint \""
        ++ fingerprint ++ "\""]
  | none => []

def duplicating (fileName fingerprint : String) (b : Buffer) : List String :=
  match b.pending.find? fun k => k.fileName ≠ fileName && k.fingerprint = fingerprint with
  | some k =>
    ["the record with the same fingerprint \"" ++ fingerprint
      ++ "\" was already recorded at path \""
      ++ k.fileName ++ "\", recording another one with a different path \"" ++ fileName ++ "\""]
  | none => []

def replacedSize (b : Buffer) (fileName : String) : Nat := ((b.get? fileName).map Kept.size).getD 0

def accept (bounds : Bounds) (name : String) (fresh : Kept) (data : Bytes) (b : Buffer) :
    Reception × Buffer :=
  let size := b.size - b.replacedSize fresh.fileName + data.length
  if name ≠ runRecordName ∧ bounds.archive < size then
    (.tooLarge fresh.fileName data.length bounds.archive, b)
  else
    let warnings := overwriting fresh.fileName fresh.fingerprint (b.get? fresh.fileName)
      ++ b.duplicating fresh.fileName fresh.fingerprint
    (.accepted warnings (bounds.flush < size), ⟨Keyed.insert fresh.fileName fresh b.kept, size⟩)

/-- Records something. Without a time of its own it counts as captured `now`. A content that is
known under its name is passed over, also if it was written long ago. -/
def record (bounds : Bounds) (now : Instant) (r : Record) (b : Buffer) : Reception × Buffer :=
  match r.marshal with
  | .error e => (.unreadable e, b)
  | .ok (data, fingerprint) =>
    let fresh : Kept := ⟨r.fileName, fingerprint, r.capturedAt.getD now, some data⟩
    if !fingerprint.isEmpty && (b.get? r.fileName).any (·.fingerprint = fingerprint)
      then (.unchanged, b)
    else b.accept bounds r.name fresh data

/-- Drops the bytes of a record that was written, unless it was replaced since: what stays, and how
many bytes were dropped. -/
def clearOne (written : Kept) (kept : List (String × Kept)) : List (String × Kept) × Nat :=
  match kept.lookup written.fileName with
  | some k =>
      if k.sameCapture written then
        (Keyed.modify written.fileName Kept.settled kept, k.size) else (kept, 0)
  | none => (kept, 0)

def clearAll : (written : List Kept) → List (String × Kept) → List (String × Kept) × Nat
  | [], kept => (kept, 0)
  | w :: rest, kept =>
    let (kept, freed) := clearOne w kept
    let (kept, more) := clearAll rest kept
    (kept, freed + more)

def clear (written : List Kept) (b : Buffer) : Buffer :=
  let (kept, freed) := clearAll written b.kept
  ⟨kept, b.size - freed⟩

end Buffer

end ClusterSurvey.Recording
