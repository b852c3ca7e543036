import ClusterSurvey.Json.Reader
import ClusterSurvey.Survey.ContainerLogs
import ClusterSurvey.Survey.Events

/-!
The operators of the cluster, the resources they own, and the pods, events and logs of the operators
that are not healthy.
-/
namespace ClusterSurvey.Survey

def operatorGroup : String := "operator.openshift.io"

def hasPart (part s : String) : Bool := Text.occursIn part.toList s.toList

def preferredVersions (groups : Json) : List (String × String) :=
  (groups.itemsAt ["groups"]).filterMap fun group =>
    match group.stringAt? ["name"], group.stringAt? ["preferredVersion", "version"] with
    | some name, some version => if hasPart operatorGroup name then some (name, version) else none
    | _, _ => none

def discoverVersions {σ : Type} (c : Client σ) : StateM σ (Option (List (String × String))) := do
  match ← c.raw "/apis" [] with
  | .error _ => return none
  | .ok body => return ((Utf8.decode? body).bind Json.parse?).map preferredVersions

def versionOf (versions : List (String × String)) (group : String) : Option String :=
  versions.reverse.lookup group

def ownedView? (resource : Json) : Option Json :=
  match resource.stringAt? ["kind"], resource.stringAt? ["apiVersion"],
    resource.stringAt? ["metadata", "name"] with
  | some kind, some apiVersion, some name =>
    some (.obj [("apiVersion", .str apiVersion), ("kind", .str kind), ("name", .str name),
      ("spec", (resource.get? "spec").getD .null)])
  | _, _, _ => none

def ownedKind? (versions : List (String × String)) (related : Json) : Option ApiResource :=
  let group := related.stringAt ["group"]
  if !hasPart operatorGroup group then none
  else (versionOf versions group).map fun version =>
    ⟨group, version, String.ofList (Text.lower (related.stringAt ["resource"]).toList), false⟩

def ownedResource? {σ : Type} (c : Client σ) (versions : List (String × String)) (related : Json) :
    StateM σ (Option Json) := do
  match ownedKind? versions related with
  | none => return none
  | some kind =>
    match ← c.get kind none (related.stringAt ["name"]) with
    | .error _ => return none
    | .ok resource => return ownedView? resource

/-- The record of a resource that an operator owns; those of the image registry have tasks of their
own. -/
def ownedRecord? (view : Json) : Option Record :=
  if hasPart "imageregistry" (view.stringAt ["apiVersion"]) then none
  else
    let (group, kind) := groupAndKind view
    some (.of ("config/clusteroperator/" ++ group ++ "/" ++ kind ++ "/" ++ view.stringAt ["name"])
      (.redacted .operatorResource view))

def operatorRecords {σ : Type} (c : Client σ) (versions : List (String × String))
    (operator : Json) :
    StateM σ (List Record) := do
  let views ← (operator.itemsAt ["status", "relatedObjects"]).mapM (ownedResource? c versions)
  return .of ("config/clusteroperator/" ++ operator.name) (.resource operator)
    :: (views.filterMap id).filterMap ownedRecord?

def clusterOperators {σ : Type} (c : Client σ) : Gather σ (List Record) := do
  let operators ← Gather.call (listAll c .clusterOperators none)
  let versions ← (discoverVersions c : StateM σ _)
  let records ← (operators.mapM (operatorRecords c (versions.getD [])) : StateM σ _)
  return records.flatten

/-- Whether a condition tells that an operator does not work. -/
def isFailing (condition : Json) : Bool :=
  match condition.stringAt? ["type"], condition.stringAt? ["status"] with
  | some "Degraded", some "True" => true
  | some "Available", some "False" => true
  | _, _ => false

def isHealthyOperator (operator : Json) : Bool :=
  !(operator.itemsAt ["status", "conditions"]).any isFailing

def operatorNamespaces (operator : Json) : List String :=
  ((operator.itemsAt ["status", "relatedObjects"]).filter
    fun r => r.stringAt? ["resource"] == some "namespaces").filterMap fun r => r.stringAt? ["name"]

structure Findings where
  records : List Record
  pods : List Json
  /-- The namespaces whose events were recorded. -/
  withEvents : List String

def Findings.addNamespace {σ : Type} (c : Client σ) (now : Instant) (f : Findings) (ns : String) :
    StateM σ Findings := do
  match ← listAll c .pods (some ns) with
  | .error _ => return f
  | .ok pods =>
    let sick := pods.filter fun pod => !isHealthyPod pod now
    let f := { f with records := f.records ++ sick.map podRecord, pods := f.pods ++ sick }
    if ns ∈ f.withEvents then return f
    match ← namespaceEvents c ns now with
    | .error _ => return f
    | .ok records =>
        return { f with records := f.records ++ records, withEvents := ns :: f.withEvents }

def operatorPodsAndEvents {σ : Type} (c : Client σ) (now : Instant) (cancelled : Bool) :
    Gather σ (List Record) := do
  let operators ← Gather.call (listAll c .clusterOperators none)
  let namespaces := (operators.filter fun o => !isHealthyOperator o).flatMap operatorNamespaces
  let found ← (namespaces.foldlM (Findings.addNamespace c now) ⟨[], [], []⟩ : StateM σ Findings)
  match logBufferSize (found.pods.flatMap containerNames).length with
  | none => return found.records
  | some size => return found.records ++ (← containerLogs c found.pods size cancelled)

end ClusterSurvey.Survey
