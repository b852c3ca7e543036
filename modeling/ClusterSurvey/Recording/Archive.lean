import ClusterSurvey.Error
import ClusterSurvey.Recording.Buffer
import ClusterSurvey.Recording.Directory
import ClusterSurvey.Recording.EntryName

/-!
Archives of records. An archive is named for the time of its newest record, so the order of the
names is that of the times. It is written entry by entry into a new file, which is removed again if
something goes wrong.
-/
namespace ClusterSurvey.Recording

def archiveStart : String := "insights-"

def archiveEnd : String := ".tar.gz"

def archiveTime (t : Instant) : List Char :=
  let c := Rfc3339.clock t
  let two := Rfc3339.padded 2
  Rfc3339.year c.date.year ++ '-' :: two c.date.month ++ '-' :: two c.date.day ++ '-' :: two c.hour
    ++ two c.minute ++ two c.second

def archiveName (t : Instant) : String :=
  archiveStart ++ String.ofList (archiveTime t) ++ archiveEnd

def isArchiveName (name : String) : Bool :=
  archiveStart.toList.isPrefixOf name.toList && archiveEnd.toList.isSuffixOf name.toList

def entryMode : Nat := 416

def entryOf (k : Kept) (data : Bytes) : Except GatherError ArchiveEntry :=
  match EntryName.stored k.fileName with
  | .ok name => .ok ⟨name, entryMode, k.capturedAt.second.toNat, data⟩
  | .error (fault, field) =>
    .error (.recorder ("unable to write tar entry: " ++ fault.message
      ++ " when setting path for " ++ field))

inductive Layer where
  | tar
  | gzip
  | file
  deriving DecidableEq, Repr

def Layer.text : Layer → String
  | tar => "tar writer"
  | gzip => "gzip writer"
  | file => "file"

/-- What happens while an archive is written: what keeps a file from being created under a free
name, whether the run is cancelled before each entry, what keeps an entry from being written or a
part from being closed, and whether a file that was begun can be removed again. -/
structure Circumstances where
  creationFailure : Option String
  cancelled : Nat → Bool
  entryFailure : Nat → Option String
  closingFailure : Option (Layer × String)
  removable : Bool

namespace Circumstances

def calm (cancelled : Bool) : Circumstances := ⟨none, fun _ => cancelled, fun _ => none, none, true⟩

end Circumstances

def nextEntry (w : Circumstances) (i : Nat) (k : Kept) (data : Bytes) :
    Except GatherError ArchiveEntry :=
  match w.entryFailure i with
  | some text => .error (.recorder ("unable to write tar entry: " ++ text))
  | none => entryOf k data

def writeEntries (w : Circumstances) (name : String) : (i : Nat) → List Kept → Directory →
    Except GatherError Unit × Directory
  | _, [], d =>
    match w.closingFailure with
    | some (layer, text) =>
        (.error (.recorder ("unable to close " ++ layer.text ++ ": " ++ text)), d)
    | none => (.ok (), d.finish name)
  | i, k :: rest, d =>
    if w.cancelled i then (.error .cancelled, d)
    else match k.data with
      | none => writeEntries w name (i + 1) rest d
      | some data =>
        match nextEntry w i k data with
        | .error e => (.error e, d)
        | .ok entry => writeEntries w name (i + 1) rest (d.addEntry name entry)

def uncreated (text : String) : GatherError := .recorder ("unable to create archive: " ++ text)

/-- Writes an archive of records, `false` if there is something under its name. A missing directory
cannot be written to. An archive that was begun is removed again if it cannot be completed. -/
def writeArchive (w : Circumstances) (now : Instant) (name : String) (records : List Kept)
    (storage : Option Directory) : Except GatherError Bool × Option Directory :=
  match storage with
  | none => (.error (uncreated missingText), none)
  | some d =>
    if (d.get? name).isSome then (.ok false, some d)
    else match w.creationFailure with
      | some text => (.error (uncreated text), some d)
      | none =>
        match writeEntries w name 0 records (d.set name (.file (.unfinished []) now)) with
        | (.ok _, d) => (.ok true, some d)
        | (.error e, d) => (.error e, some (if w.removable then d.remove name else d))

def archives (d : Directory) : List (String × Content × Instant) :=
  d.nodes.filterMap fun (name, node) =>
    match node with
    | .file content modified => if isArchiveName name then some (name, content, modified) else none
    | _ => none

/-- The newest archive that was changed after a time. -/
def newestArchive (since : Instant) (storage : Option Directory) :
    Except GatherError (Option (String × Content)) :=
  match storage with
  | none => .error (.io missingText)
  | some d => .ok <|
    ((archives d).filter fun a => since < a.2.2).getLast?.map fun (name, content, _) =>
      (name, content)

def pruneFailure? : List String → Option GatherError
  | [] => none
  | [text] => some (.recorder ("failed to delete expired file: " ++ text))
  | text :: rest =>
      some (.recorder (s!"failed to delete {rest.length + 1} expired files: " ++ text))

/-- Deletes the archives that were not changed after a time. `kept` tells why an archive cannot be
deleted; such an archive does not keep the others back. -/
def prune (kept : String → Option String) (olderThan : Instant) (storage : Option Directory) :
    Except GatherError Nat × Option Directory :=
  match storage with
  | none => (.error (.io missingText), none)
  | some d =>
    let expired := ((archives d).filter fun a => a.2.2 ≤ olderThan).map (·.1)
    let deleted := expired.filter fun name => (kept name).isNone
    let d := ⟨d.nodes.filter fun n => !deleted.contains n.1⟩
    match pruneFailure? (expired.filterMap kept) with
    | some e => (.error e, some d)
    | none => (.ok deleted.length, some d)

end ClusterSurvey.Recording
