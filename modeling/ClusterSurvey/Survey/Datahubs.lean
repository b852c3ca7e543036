import ClusterSurvey.Survey.ErrorLogs
import ClusterSurvey.Survey.PodHealth

/-!
Installations of data hubs: what they are, what they are allowed to do, their pods that do not run,
and failures of their license management. Clusters without data hubs have no such records.
-/
namespace ClusterSurvey.Survey

variable {σ : Type}

def datahubs (c : Client σ) : Gather σ (List Json) := Gather.call (listAll c .sapDatahubs none)

def datahubNamespaces (hubs : List Json) : List String := uniqueFrom [] (hubs.map Json.namespaceOf)

def constraintNames : List String := ["anyuid", "privileged"]

def bindingNames : List String := ["system:openshift:scc:anyuid", "system:openshift:scc:privileged"]

def withoutColons (s : String) : String :=
  String.ofList (s.toList.map fun c => if c = ':' then '_' else c)

def existing (c : Client σ) (r : ApiResource) (names : List String) (path : Json → String) :
    Gather σ (List Record) := do
  let found ← names.mapM fun name => Gather.call (c.find r none name)
  return (found.filterMap id).map fun o => .of (path o) (.resource o)

def datahubPermissions (c : Client σ) : Gather σ (List Record) := do
  if (← datahubs c).isEmpty then return []
  let constraints ← existing c .securityContextConstraints constraintNames fun o =>
    "config/securitycontextconstraint/" ++ o.name
  let bindings ← existing c .clusterRoleBindings bindingNames fun o =>
    "config/clusterrolebinding/" ++ withoutColons o.name
  return constraints ++ bindings

/-- Whether one of several jobs has succeeded; jobs behind it are not looked at. -/
def anySucceeded (c : Client σ) (ns : String) : List String → Gather σ Bool
  | [] => return false
  | job :: rest => do
    let found ← Gather.call (c.get .jobs (some ns) job)
    if 0 < (found.int64At? ["status", "succeeded"]).getD 0 then return true
    anySucceeded c ns rest

def owningJobs (pod : Json) : List String :=
  ((pod.itemsAt ["metadata", "ownerReferences"]).filter
    fun o => o.stringAt? ["kind"] == some "Job").filterMap fun o => o.stringAt? ["name"]

/-- The record of a pod that neither runs nor is done, unless one of its jobs has succeeded. -/
def waitingPod (c : Client σ) (pod : Json) : Gather σ (Option Record) := do
  let phase := pod.stringAt? ["status", "phase"]
  if phase = some "Running" ∨ phase = some "Succeeded" then return none
  if ← anySucceeded c pod.namespaceOf (owningJobs pod) then return none
  return some (podRecord pod)

def datahubPods (c : Client σ) : Gather σ (List Record) := do
  let records ← (datahubNamespaces (← datahubs c)).mapM fun ns => do
    let pods ← Gather.call (listAll c .pods (some ns))
    let records ← pods.mapM (waitingPod c)
    return records.filterMap id
  return records.flatten

def datahubName (hub : Json) : String :=
  let kind := ApiResource.sapDatahubs
  "customresources/" ++ kind.group ++ "/" ++ kind.plural ++ "/" ++ hub.namespaceOf
    ++ "/" ++ hub.name

def datahubRecords (c : Client σ) : Gather σ (List Record) := do
  return (← datahubs c).map fun hub => .of (datahubName hub) (.resource hub)

def licenseContainers (ns : String) : Log.Selection :=
  { Log.Selection.of ns with
    containerName := some (.seq (.look .textStart)
      (.seq ("vsystem-iptables".toList.foldr (fun ch p => .seq (.chars (.single ch)) p) .empty)
        (.look .textEnd))) }

def licenseLogs (c : Client σ) (cancelled : Bool) : StateM σ Output := do
  match ← (datahubs c).run with
  | .error e => return ⟨[], [e]⟩
  | .ok hubs =>
    let outputs ← hubs.mapM fun hub =>
      errorLogs c (licenseContainers hub.namespaceOf)
        (.substrings ["can't initialize iptables table"]) cancelled
    return ⟨outputs.flatMap (·.records), outputs.flatMap (·.errors)⟩

end ClusterSurvey.Survey
