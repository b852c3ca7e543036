import ClusterSurvey.Cluster.Pager
import ClusterSurvey.Json.Path
import ClusterSurvey.Record.Basic
import ClusterSurvey.Text.Case

/-!
What a task hands back, and the lists that many tasks begin with.
-/
namespace ClusterSurvey

abbrev Gather (σ : Type) (α : Type) : Type := ExceptT GatherError (StateM σ) α

namespace Gather

def call {σ α : Type} (x : StateM σ (Except ClusterError α)) : Gather σ α := do
  match ← (x : StateM σ (Except ClusterError α)) with
  | .ok v => return v
  | .error e => throw (.cluster e)

/-- A call that gives nothing where the cluster does not know the kind of resource. -/
def callUnlessMissing {σ α : Type} (x : StateM σ (Except ClusterError α)) : Gather σ (Option α) :=
  do
  match ← (x : StateM σ (Except ClusterError α)) with
  | .ok v => return some v
  | .error e => if e.isNotFound then return none else throw (.cluster e)

def ofExcept {σ α : Type} (x : Except GatherError α) : Gather σ α :=
  match x with
  | .ok v => return v
  | .error e => throw e

end Gather

structure Output where
  records : List Record
  errors : List GatherError

def Gather.output {σ : Type} (x : Gather σ (List Record)) : StateM σ Output := do
  match ← x.run with
  | .ok records => return ⟨records, []⟩
  | .error e => return ⟨[], [e]⟩

namespace Survey

def pageSize : Nat := 500

/-- All objects of a kind. A kind that the cluster does not serve has none. -/
def listAll {σ : Type} (c : Client σ) (r : ApiResource) (ns : Option String) :
    StateM σ (Except ClusterError (List Json)) := do
  let pager := { (Pager.of r).withLimit pageSize with ns }
  match ← pager.collect c with
  | .ok paged => return .ok paged.items
  | .error e => return if e.isNotFound then .ok [] else .error e

def maxNamespaces : Nat := 1000

def platformNamespaces {σ : Type} (c : Client σ) : StateM σ (Except ClusterError (List String)) :=
  do
  let pager := ((Pager.of .namespaces).withLimit maxNamespaces).withCap maxNamespaces
  match ← pager.collect c with
  | .ok paged => return .ok ((paged.items.map Json.name).filter (·.startsWith "openshift"))
  | .error e => return .error e

def groupAndKind (resource : Json) : String × String :=
  let version := (resource.stringAt ["apiVersion"]).toList
  let group := (version.reverse.dropWhile (· ≠ '/')).drop 1
  (String.ofList group.reverse, String.ofList (Text.lower (resource.stringAt ["kind"]).toList))

end Survey

end ClusterSurvey
