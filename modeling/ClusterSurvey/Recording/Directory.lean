import ClusterSurvey.Bytes.Basic
import ClusterSurvey.Keyed
import ClusterSurvey.Time.Rfc3339

/-!
The directory that archives are written to. An archive that is being written is there already, with
the entries that it has so far. The directory may be missing.
-/
namespace ClusterSurvey.Recording

/-- An entry of an archive. Its time is in seconds since 1970, 0 for earlier ones. -/
structure ArchiveEntry where
  name : String
  mode : Nat
  modified : Nat
  data : Bytes
  deriving DecidableEq, Repr

inductive Content where
  | bytes (data : Bytes)
  | archive (entries : List ArchiveEntry)
  /-- An archive that is being written, the last entry first. -/
  | unfinished (entries : List ArchiveEntry)
  deriving DecidableEq, Repr

inductive FileNode where
  | file (content : Content) (modified : Instant)
  | directory
  | link (target : String)
  deriving DecidableEq, Repr

structure Directory where
  nodes : List (String × FileNode)
  deriving DecidableEq, Repr

def missingText : String := "No such file or directory (os error 2)"

namespace Directory

def empty : Directory := ⟨[]⟩

def get? (d : Directory) (name : String) : Option FileNode := d.nodes.lookup name

def set (d : Directory) (name : String) (node : FileNode) : Directory :=
  ⟨Keyed.insert name node d.nodes⟩

def remove (d : Directory) (name : String) : Directory := ⟨d.nodes.filter fun n => n.1 ≠ name⟩

def names (d : Directory) : List String := d.nodes.map (·.1)

def addEntry (d : Directory) (name : String) (entry : ArchiveEntry) : Directory :=
  match d.get? name with
  | some (.file (.unfinished entries) modified) =>
      d.set name (.file (.unfinished (entry :: entries)) modified)
  | _ => d

def finish (d : Directory) (name : String) : Directory :=
  match d.get? name with
  | some (.file (.unfinished entries) modified) =>
      d.set name (.file (.archive entries.reverse) modified)
  | _ => d

end Directory

end ClusterSurvey.Recording
