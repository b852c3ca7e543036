import ClusterSurvey.Bytes.Basic
import ClusterSurvey.Text.Split

/-!
Names of the entries of an archive. A name is a relative path without steps upwards. It is stored
without its empty and `.` segments if that fits the field of an entry's header; a longer one is
stored as it is in front of the entry, whose header then has only the beginning.
-/
namespace ClusterSurvey.Recording

inductive NameFault where
  | absolute
  | upwards
  | empty
  | nul
  | tooLong
  deriving DecidableEq, Repr

def NameFault.message : NameFault → String
  | absolute => "paths in archives must be relative"
  | upwards => "paths in archives must not have \x60..\x60"
  | empty => "paths in archives must have at least one component"
  | nul => "provided value contains a nul byte"
  | tooLong => "provided value is too long"

namespace EntryName

/-- A segment of a path. The current directory is one only at the beginning of a path. -/
inductive Segment where
  | root
  | current
  | upwards
  | named (name : List Char)
  deriving DecidableEq, Repr

def Segment.chars : Segment → List Char
  | root => ['/']
  | current => ['.']
  | upwards => ['.', '.']
  | named name => name

def segments (path : List Char) : List Segment :=
  let parts := Text.splitAt '/' path
  let first : List Segment :=
    if path.head? = some '/' then [.root] else if parts.head? = some ['.'] then [.current] else []
  first ++ (parts.filter fun p => p ≠ [] ∧ p ≠ ['.']).map fun p =>
    if p = ['.', '.'] then .upwards else .named p

def fieldSize : Nat := 100

def byteSize : List Char → Nat
  | [] => 0
  | c :: cs => c.utf8Size + byteSize cs

def put (field text : List Char) : Except (NameFault × List Char) (List Char) :=
  if fieldSize < byteSize field + byteSize text then .error (.tooLong, field)
  else if text.any (·.toNat = 0) then .error (.nul, field)
  else .ok (field ++ text)

def putSegment (field : List Char) (s : Segment) : Except (NameFault × List Char) (List Char) := do
  let field ← if field.isEmpty then pure field else put field ['/']
  put field s.chars

/-- Adds segments to the field. Steps upwards are refused, save as the last segment of the beginning
of a longer name. A `.` counts only if it is all there is. On a fault the field up to there is given
as well. -/
def putAll (beginning alone : Bool) : (field : List Char) → List Segment →
    Except (NameFault × List Char) (List Char)
  | field, [] => .ok field
  | field, s :: rest =>
    match s with
    | .root => .error (.absolute, field)
    | .upwards =>
      if beginning && rest.isEmpty then (putSegment field s).bind (putAll beginning alone · rest)
      else .error (.upwards, field)
    | .current =>
      if alone then (putSegment field s).bind (putAll beginning alone · rest)
      else putAll beginning alone field rest
    | .named _ => (putSegment field s).bind (putAll beginning alone · rest)

def field (beginning : Bool) (path : List Char) : Except (NameFault × List Char) (List Char) := do
  let parts := segments path
  let chars ← putAll beginning (parts.length = 1) [] parts
  if chars.isEmpty then throw (.empty, [])
  if path.getLast? = some '/' then put chars ['/'] else return chars

def beginningWithin : (room : Nat) → List Char → List Char
  | _, [] => []
  | room, c :: cs => if c.utf8Size ≤ room then c :: beginningWithin (room - c.utf8Size) cs else []

def stored (path : String) : Except (NameFault × String) String :=
  let cs := path.toList
  let faulty (e : NameFault × List Char) := (e.1, String.ofList e.2)
  match field false cs with
  | .ok name => .ok (String.ofList name)
  | .error e =>
    if byteSize cs < fieldSize then .error (faulty e)
    else match field true (beginningWithin fieldSize cs) with
      | .ok _ => .ok path
      | .error e => .error (faulty e)

end EntryName

end ClusterSurvey.Recording
