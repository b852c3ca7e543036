import ClusterSurvey.Json.Basic
import ClusterSurvey.Error
import ClusterSurvey.Time.Rfc3339

/-!
Values inside a tree, found by the names of the members that lead to them. Only objects have
members, so a path through anything else leads nowhere. A replacement changes the value at its path
and nothing else.
-/
namespace ClusterSurvey.Json

def walk? : (path : List String) → Json → Option Json
  | [], v => some v
  | key :: rest, v =>
    match v.get? key with
    | some member => walk? rest member
    | none => none

def pathText (path : List String) : String := ".".intercalate path

def walk (path : List String) (v : Json) : Except GatherError Json :=
  match walk? path v with
  | some found => .ok found
  | none => .error (.fieldNotFound (pathText path))

def stringAt? (path : List String) (v : Json) : Option String := (walk? path v).bind asString?

def stringAt (path : List String) (v : Json) : String := (stringAt? path v).getD ""

def itemsAt (path : List String) (v : Json) : List Json := ((walk? path v).bind asArray?).getD []

def int64At? (path : List String) (v : Json) : Option Int := (walk? path v).bind asInt64?

def timeAt? (path : List String) (v : Json) : Option Instant :=
  (stringAt? path v).bind fun s => Rfc3339.parse? s.toList

/-- Applies `f` to the value at a path; a tree without such a value stays as it is. -/
def modifyAt : (path : List String) → (f : Json → Json) → Json → Json
  | [], f, v => f v
  | key :: rest, f, .obj members => .obj (Keyed.modify key (modifyAt rest f) members)
  | _ :: _, _, v => v

def mapString (f : String → String) : Json → Json
  | .str s => .str (f s)
  | v => v

def mapItems (f : Json → Json) : Json → Json
  | .arr items => .arr (items.map f)
  | v => v

def mapMembers (f : String → Json → Json) : Json → Json
  | .obj members => .obj (members.map fun m => (m.1, f m.1 m.2))
  | v => v

def removeMember (key : String) : Json → Json
  | .obj members => .obj (erase key members)
  | v => v

/-- Replaces the text at a path. The path has to lead to a text. -/
def replaceString (path : List String) (f : String → String) (v : Json) : Except GatherError Json :=
  match walk? path v with
  | none => .error (.fieldNotFound (pathText path))
  | some (.str _) => .ok (modifyAt path (mapString f) v)
  | some _ => .error (.anonymization (pathText path ++ " is not a string"))

def replaceStringIfPresent (path : List String) (f : String → String) (v : Json) : Json :=
  modifyAt path (mapString f) v

def name (resource : Json) : String := stringAt ["metadata", "name"] resource

def namespaceOf (resource : Json) : String := stringAt ["metadata", "namespace"] resource

end ClusterSurvey.Json
