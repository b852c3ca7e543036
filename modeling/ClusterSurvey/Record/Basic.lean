import ClusterSurvey.Digest.Sha2
import ClusterSurvey.Record.Item

/-!
Records: named contents with the time they were captured. Two contents with one fingerprint count as
the same.
-/
namespace ClusterSurvey

/-- A record. Without a time it counts as captured when it is recorded; an empty fingerprint stands
for the one of the stored bytes. -/
structure Record where
  name : String
  item : Item
  capturedAt : Option Instant
  fingerprint : String

namespace Record

def of (name : String) (item : Item) : Record := ⟨name, item, none, ""⟩

def fileName (r : Record) : String :=
  if r.item.extension.isEmpty then r.name else r.name ++ "." ++ r.item.extension

def marshal (r : Record) : Except GatherError (Bytes × String) :=
  r.item.marshal.map fun data =>
    (data, if r.fingerprint.isEmpty then Digest.sha256Hex data else r.fingerprint)

end Record

end ClusterSurvey
