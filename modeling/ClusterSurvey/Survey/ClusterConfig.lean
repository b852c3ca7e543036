import ClusterSurvey.Survey.Events
import ClusterSurvey.Survey.PodHealth

/-!
Objects that exist once in a cluster: its configuration under the name `cluster`, and its version.
-/
namespace ClusterSurvey.Survey

variable {σ : Type}

def singletonName : String := "cluster"

def singleton (c : Client σ) (r : ApiResource) (name : String) (item : Json → Item) :
    Gather σ (List Record) := do
  match ← Gather.call (c.find r none singletonName) with
  | none => return []
  | some object => return [.of name (item object)]

def infrastructure (c : Client σ) : Gather σ (List Record) :=
  singleton c .infrastructures "config/infrastructure" (.redacted .infrastructure)

def network (c : Client σ) : Gather σ (List Record) :=
  singleton c .networks "config/network" .resource

def authentication (c : Client σ) : Gather σ (List Record) :=
  singleton c .authentications "config/authentication" .resource

def oauth (c : Client σ) : Gather σ (List Record) := singleton c .oauths "config/oauth" .resource

def ingress (c : Client σ) : Gather σ (List Record) :=
  singleton c .ingresses "config/ingress" (.redacted .ingress)

def proxy (c : Client σ) : Gather σ (List Record) :=
  singleton c .proxies "config/proxy" (.redacted .proxy)

def featureGates (c : Client σ) : Gather σ (List Record) :=
  singleton c .featureGates "config/featuregate" .resource

def imageRegistry (c : Client σ) : Gather σ (List Record) :=
  singleton c .imageRegistryConfigs
    "config/clusteroperator/imageregistry.operator.openshift.io/config/cluster"
    (.redacted .imageRegistry)

def imagePruner (c : Client σ) : Gather σ (List Record) :=
  singleton c .imagePruners
    "config/clusteroperator/imageregistry.operator.openshift.io/imagepruner/cluster" .resource

def versionName : String := "version"

def versionNamespace : String := "openshift-cluster-version"

/-- The pods of the operator of the cluster's version, and its events when one of them is not
healthy. -/
def versionPods (c : Client σ) (now : Instant) : StateM σ (List Record) := do
  match ← listAll c .pods (some versionNamespace) with
  | .error _ => return []
  | .ok pods =>
    let records := pods.map podRecord
    if pods.all (isHealthyPod · now) then return records
    match ← namespaceEvents c versionNamespace now with
    | .error _ => return records
    | .ok events => return records ++ events

def clusterVersion (c : Client σ) (now : Instant) : Gather σ (List Record) := do
  match ← Gather.call (c.find .clusterVersions none versionName) with
  | none => return []
  | some version =>
    let id := version.stringAt ["spec", "clusterID"]
    let records := .of "config/version" (.redacted .clusterVersion version)
      :: (if id.isEmpty then [] else [.of "config/id" (.raw (Bytes.ofString id))])
    return records ++ (← (versionPods c now : StateM σ _))

end ClusterSurvey.Survey
