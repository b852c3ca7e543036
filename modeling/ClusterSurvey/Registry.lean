/-!
The catalogue of tasks by name. Of tasks with one name the last that was registered counts.
-/
namespace ClusterSurvey

/-- A task: how it runs, and whether its failures let the whole run fail. -/
structure Task (ρ : Type) where
  name : String
  /-- Whether the task may fail without harm to the run. -/
  canFail : Bool
  run : ρ

/-- Tasks in ascending order of their names. -/
structure Registry (ρ : Type) where
  tasks : List (Task ρ)

namespace Registry

variable {ρ : Type}

def allTasks : String := "all"

def empty : Registry ρ := ⟨[]⟩

def insert (t : Task ρ) : List (Task ρ) → List (Task ρ)
  | [] => [t]
  | u :: rest =>
    if u.name = t.name then t :: rest
    else if t.name < u.name then t :: u :: rest
    else u :: insert t rest

def register (r : Registry ρ) (t : Task ρ) : Registry ρ := ⟨insert t r.tasks⟩

def ofList (ts : List (Task ρ)) : Registry ρ := ts.foldl register empty

def get? (r : Registry ρ) (name : String) : Option (Task ρ) := r.tasks.find? (·.name = name)

def size (r : Registry ρ) : Nat := r.tasks.length

def names (r : Registry ρ) : List String := r.tasks.map (·.name)

def filter (r : Registry ρ) (allowed : List String) : Registry ρ :=
  ⟨r.tasks.filter fun t => allowed.contains t.name⟩

structure Selection (ρ : Type) where
  selected : List (Task ρ)
  unknown : List String

def Selection.add (r : Registry ρ) (s : Selection ρ) (name : String) : Selection ρ :=
  if s.selected.any (·.name = name) ∨ name ∈ s.unknown then s
  else match r.get? name with
    | some t => { s with selected := s.selected ++ [t] }
    | none => { s with unknown := s.unknown ++ [name] }

/-- The tasks with some names, each once and in the order of the names; all tasks if that is asked
for. -/
def resolve (r : Registry ρ) (names : List String) : Selection ρ :=
  if allTasks ∈ names then ⟨r.tasks, []⟩ else names.foldl (Selection.add r) ⟨[], []⟩

end Registry

end ClusterSurvey
