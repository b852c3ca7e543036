import ClusterSurvey.Survey.Output

/-!
Operators that were installed on demand, with their versions.
-/
namespace ClusterSurvey.Survey

structure InstalledOperator where
  name : String
  version : String
  deriving DecidableEq, Repr

def referencedVersion? (reference : Json) : Option String :=
  if reference.stringAt? ["kind"] ≠ some "ClusterServiceVersion" then none
  else (reference.stringAt? ["name"]).bind fun name =>
    let version := (name.toList.dropWhile (· ≠ '.')).drop 1
    if version.isEmpty then none else some (String.ofList version)

def versionsOf (operator : Json) : List InstalledOperator :=
  (operator.itemsAt ["status", "components", "refs"]).filterMap fun reference =>
    (referencedVersion? reference).map (⟨operator.name, ·⟩)

def distinct : List InstalledOperator → List InstalledOperator → List InstalledOperator
  | found, [] => found.reverse
  | found, o :: rest => distinct (if o ∈ found then found else o :: found) rest

def installedOperators (operators : List Json) : List InstalledOperator :=
  distinct [] (operators.flatMap versionsOf)

def InstalledOperator.toJson (o : InstalledOperator) : Json :=
  .obj [("name", .str o.name), ("version", .str o.version)]

def operatorVersions {σ : Type} (c : Client σ) : Gather σ (List Record) := do
  match ← Gather.callUnlessMissing (c.list .olmOperators none .all) with
  | none => return []
  | some page =>
    let found := installedOperators page.items
    if found.isEmpty then return []
    return [.of "config/olm_operators" (.json (.arr (found.map InstalledOperator.toJson)))]

end ClusterSurvey.Survey
