import ClusterSurvey.Bytes.Utf8
import ClusterSurvey.Settings
import ClusterSurvey.Survey.PodHealth

/-!
The ends of the logs of containers. Each log may use a share of the room of an archive. A log that
cannot be read, or is empty, is left out.
-/
namespace ClusterSurvey.Survey

def tailLines : Int := 100

def compressionRatio : Nat := 2

/-- The bytes that each of some containers' two logs may use, if there is a container. -/
def logBufferSize (containers : Nat) : Option Nat :=
  if containers = 0 then none
  else
    let size := Settings.maxLogSize * compressionRatio / containers / 2
    if 0 < size then some size else none

structure LogBuffer where
  pieces : List Bytes

def maxCapacity : Nat := 9223372036854775807

namespace LogBuffer

/-- An empty buffer with room for so many bytes. Asking for more than there can be is a panic. -/
def withCapacity (size : Nat) : Except GatherError LogBuffer :=
  if size ≤ maxCapacity then .ok ⟨[]⟩ else .error (.panic "capacity overflow")

def content (b : LogBuffer) : Bytes := b.pieces.reverse.flatten

def clear (b : LogBuffer) : LogBuffer := { b with pieces := [] }

/-- Reads up to `left` bytes of a stream behind what is in the buffer, and tells whether the stream
broke before. A stream of which all these bytes were read is not asked for more. -/
def readToEnd (failure : Option String) (b : LogBuffer) : Nat → List Bytes → Bool × LogBuffer
  | 0, _ => (false, b)
  | _ + 1, [] => (failure.isSome, b)
  | left + 1, piece :: coming =>
    readToEnd failure ⟨piece.take (left + 1) :: b.pieces⟩ (left + 1 - piece.length) coming

end LogBuffer

def maxLimit : Int := 9223372036854775807

def tailOptions (container : String) (size : Nat) (previous : Bool) : LogOptions :=
  ⟨container, 0, min size maxLimit, tailLines, previous⟩

def logName (ns pod container : String) (previous : Bool) : String :=
  "config/pod/" ++ ns ++ "/logs/" ++ pod ++ "/" ++ container
    ++ (if previous then "_previous.log" else "_current.log")

/-- What was read of logs so far: the records, the last one first, and the buffer as it was left. -/
structure LogReading where
  records : List Record
  buffer : LogBuffer

def LogReading.add (r : LogReading) (name : String) (size : Nat) (stream : ByteStream) :
    LogReading :=
  let (broken, buffer) := r.buffer.clear.readToEnd stream.failure size stream.chunks
  if broken || buffer.content.isEmpty then { r with buffer }
  else
    let text := Bytes.ofChars (Utf8.decodeLossy buffer.content)
    ⟨.of name (.raw text) :: r.records, buffer⟩

def containerLog {σ : Type} (c : Client σ) (size : Nat) (cancelled previous : Bool)
    (r : LogReading) (pod : Json) (container : String) : Gather σ LogReading := do
  match ← (c.logs pod.namespaceOf pod.name (tailOptions container size previous) :
      StateM σ (Except ClusterError ByteStream)) with
  | .error _ => return r
  | .ok stream =>
    if cancelled then throw .cancelled
    return r.add (logName pod.namespaceOf pod.name container previous) size stream

/-- The containers whose logs are read in one of the two passes, each with its pod. Earlier runs
have logs only in pods that were restarted. -/
def logTargets (pods : List Json) (previous : Bool) : List (Json × String) :=
  (if previous then pods.filter isRestarted else pods).flatMap fun pod =>
    (containerNames pod).map (pod, ·)

def containerLogs {σ : Type} (c : Client σ) (pods : List Json) (size : Nat) (cancelled : Bool) :
    Gather σ (List Record) := do
  let buffer ← Gather.ofExcept (LogBuffer.withCapacity size)
  let read ← [true, false].foldlM (fun read previous => (logTargets pods previous).foldlM
    (fun read (pod, container) => containerLog c size cancelled previous read pod container) read)
      ⟨[], buffer⟩
  return read.records.reverse

end ClusterSurvey.Survey
