/-!
Kinds of resources of the cluster's interface and the paths of their collections and objects.
-/
namespace ClusterSurvey

/-- A kind of resource: its group (empty for the core group), version and plural name, and whether
its objects live in namespaces. -/
structure ApiResource where
  group : String
  version : String
  plural : String
  namespaced : Bool
  deriving DecidableEq, Repr

namespace ApiResource

def apiVersion (r : ApiResource) : String :=
  if r.group.isEmpty then r.version else r.group ++ "/" ++ r.version

def label (r : ApiResource) : String :=
  if r.group.isEmpty then r.plural else r.plural ++ "." ++ r.group

/-- The namespace that counts for a kind of resource: one that is given and not empty, if its
objects live in namespaces. -/
def effectiveNamespace (r : ApiResource) (ns : Option String) : Option String :=
  ns.filter fun n => r.namespaced && !n.isEmpty

def path (r : ApiResource) (ns name : Option String) : String :=
  (if r.group.isEmpty then "/api/" ++ r.version else "/apis/" ++ r.group ++ "/" ++ r.version)
    ++ (match r.effectiveNamespace ns with
      | some n => "/namespaces/" ++ n
      | none => "")
    ++ "/" ++ r.plural
    ++ (match name with
      | some n => "/" ++ n
      | none => "")

/-! The kinds of resources that are surveyed. -/

def pods : ApiResource := ⟨"", "v1", "pods", true⟩
def events : ApiResource := ⟨"", "v1", "events", true⟩
def nodes : ApiResource := ⟨"", "v1", "nodes", false⟩
def configMaps : ApiResource := ⟨"", "v1", "configmaps", true⟩
def namespaces : ApiResource := ⟨"", "v1", "namespaces", false⟩
def serviceAccounts : ApiResource := ⟨"", "v1", "serviceaccounts", true⟩
def clusterOperators : ApiResource := ⟨"config.openshift.io", "v1", "clusteroperators", false⟩
def clusterVersions : ApiResource := ⟨"config.openshift.io", "v1", "clusterversions", false⟩
def infrastructures : ApiResource := ⟨"config.openshift.io", "v1", "infrastructures", false⟩
def networks : ApiResource := ⟨"config.openshift.io", "v1", "networks", false⟩
def authentications : ApiResource := ⟨"config.openshift.io", "v1", "authentications", false⟩
def oauths : ApiResource := ⟨"config.openshift.io", "v1", "oauths", false⟩
def ingresses : ApiResource := ⟨"config.openshift.io", "v1", "ingresses", false⟩
def proxies : ApiResource := ⟨"config.openshift.io", "v1", "proxies", false⟩
def featureGates : ApiResource := ⟨"config.openshift.io", "v1", "featuregates", false⟩
def imageRegistryConfigs : ApiResource :=
  ⟨"imageregistry.operator.openshift.io", "v1", "configs", false⟩
def imagePruners : ApiResource :=
  ⟨"imageregistry.operator.openshift.io", "v1", "imagepruners", false⟩
def images : ApiResource := ⟨"image.openshift.io", "v1", "images", false⟩
def certificateSigningRequests : ApiResource :=
  ⟨"certificates.k8s.io", "v1", "certificatesigningrequests", false⟩
def customResourceDefinitions : ApiResource :=
  ⟨"apiextensions.k8s.io", "v1", "customresourcedefinitions", false⟩
def mutatingWebhookConfigurations : ApiResource :=
  ⟨"admissionregistration.k8s.io", "v1", "mutatingwebhookconfigurations", false⟩
def podDisruptionBudgets : ApiResource := ⟨"policy", "v1", "poddisruptionbudgets", true⟩
def podSecurityPolicies : ApiResource := ⟨"policy", "v1beta1", "podsecuritypolicies", false⟩
def jobs : ApiResource := ⟨"batch", "v1", "jobs", true⟩
def clusterRoleBindings : ApiResource :=
  ⟨"rbac.authorization.k8s.io", "v1", "clusterrolebindings", false⟩
def hostSubnets : ApiResource := ⟨"network.openshift.io", "v1", "hostsubnets", false⟩
def netNamespaces : ApiResource := ⟨"network.openshift.io", "v1", "netnamespaces", false⟩
def machineSets : ApiResource := ⟨"machine.openshift.io", "v1beta1", "machinesets", true⟩
def machineConfigPools : ApiResource :=
  ⟨"machineconfiguration.openshift.io", "v1", "machineconfigpools", false⟩
def containerRuntimeConfigs : ApiResource :=
  ⟨"machineconfiguration.openshift.io", "v1", "containerruntimeconfigs", false⟩
def securityContextConstraints : ApiResource :=
  ⟨"security.openshift.io", "v1", "securitycontextconstraints", false⟩
def podNetworkConnectivityChecks : ApiResource :=
  ⟨"controlplane.operator.openshift.io", "v1alpha1", "podnetworkconnectivitychecks", true⟩
def installPlans : ApiResource := ⟨"operators.coreos.com", "v1alpha1", "installplans", true⟩
def olmOperators : ApiResource := ⟨"operators.coreos.com", "v1", "operators", false⟩
def sapDatahubs : ApiResource := ⟨"installers.datahub.sap.com", "v1alpha1", "datahubs", true⟩

end ApiResource

end ClusterSurvey
