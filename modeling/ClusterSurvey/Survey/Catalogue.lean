import ClusterSurvey.Registry
import ClusterSurvey.Survey.ClusterConfig
import ClusterSurvey.Survey.ConfigMaps
import ClusterSurvey.Survey.Connectivity
import ClusterSurvey.Survey.Datahubs
import ClusterSurvey.Survey.ErrorLogs
import ClusterSurvey.Survey.InstallPlans
import ClusterSurvey.Survey.InstalledOperators
import ClusterSurvey.Survey.Inventory
import ClusterSurvey.Survey.Metrics
import ClusterSurvey.Survey.Operators
import ClusterSurvey.Survey.RunningImages
import ClusterSurvey.Survey.ServiceAccounts
import ClusterSurvey.Survey.SigningRequests
import ClusterSurvey.Workload.Fingerprint

/-!
All tasks of a survey. They share the client of the cluster and the cache of images, which is part
of the state that a task is run on. The failure of a task about optional parts of a cluster does not
let the run fail.
-/
namespace ClusterSurvey.Survey

/-- What tasks run on: the state of the client and the cache of images. -/
abbrev Shared (σ : Type) : Type := σ × Workload.ImageCache

abbrev Program (σ : Type) : Type := Bool → StateM (Shared σ) Output

structure Site (σ : Type) where
  client : Client σ
  /-- Where metrics are read from, if they are. -/
  metricsUrl : Option String
  now : Instant

def onClient {σ α : Type} (x : StateM σ α) : StateM (Shared σ) α := fun s =>
  let (a, t) := x s.1
  (a, (t, s.2))

def Program.ofGather {σ : Type} (x : Gather σ (List Record)) : Program σ :=
  fun _ => onClient x.output

def workloadProgram {σ : Type} (c : Client σ) : Program σ := fun cancelled s =>
  let ((output, cache), t) := Workload.survey c cancelled s.2 s.1
  (output, (t, cache))

def important {σ : Type} (site : Site σ) : List (String × Program σ) :=
  let c := site.client
  [("pdbs", .ofGather (disruptionBudgets c)), ("nodes", .ofGather (nodes c)),
    ("crds", fun _ => onClient (definitions c)),
    ("host_subnets", .ofGather (hostSubnets c)), ("netnamespaces", .ofGather (netNamespaces c)),
    ("machine_sets", .ofGather (machineSets c)),
    ("machine_config_pools", .ofGather (machineConfigPools c)),
    ("container_runtime_configs", .ofGather (containerRuntimeConfigs c)),
    ("mutating_webhook_configurations", .ofGather (mutatingWebhooks c)),
    ("psps", .ofGather (securityPolicies c)), ("infrastructures", .ofGather (infrastructure c)),
    ("networks", .ofGather (network c)), ("authentication", .ofGather (authentication c)),
    ("oauths", .ofGather (oauth c)), ("ingress", .ofGather (ingress c)),
    ("proxies", .ofGather (proxy c)), ("feature_gates", .ofGather (featureGates c)),
    ("image_registries", .ofGather (imageRegistry c)), ("image_pruners", .ofGather (imagePruner c)),
    ("version", .ofGather (clusterVersion c site.now)),
    ("operators", .ofGather (clusterOperators c)), ("operators_pods_and_events", fun cancelled =>
      onClient (operatorPodsAndEvents c site.now cancelled).output),
    ("container_images", .ofGather (containerImages c)), ("workload_info", workloadProgram c),
    ("certificate_signing_requests", .ofGather (signingRequests c site.now)),
    ("install_plans", .ofGather (installPlans c)),
    ("service_accounts", .ofGather (serviceAccounts c))]

def optional {σ : Type} (site : Site σ) : List (String × Program σ) :=
  let c := site.client
  [("pod_network_connectivity_checks", .ofGather (connectivityChecks c)),
    ("olm_operators", .ofGather (operatorVersions c)),
    ("metrics", .ofGather (metrics c site.metricsUrl)),
    ("config_maps", fun _ => onClient (configMaps c)),
    ("openshift_apiserver_operator_logs",
        fun cancelled => onClient (apiServerOperatorLogs c cancelled)),
        ("openshift_sdn_logs", fun cancelled => onClient (networkLogs c cancelled)),
    ("openshift_sdn_controller_logs",
        fun cancelled => onClient (networkControllerLogs c cancelled)),
    ("openshift_authentication_logs", fun cancelled => onClient (authenticationLogs c cancelled)),
    ("sap_config", .ofGather (datahubPermissions c)), ("sap_pods", .ofGather (datahubPods c)),
    ("sap_datahubs", .ofGather (datahubRecords c)),
    ("sap_license_management_logs", fun cancelled => onClient (licenseLogs c cancelled))]

def catalogue {σ : Type} (site : Site σ) : Registry (Program σ) :=
  .ofList ((important site).map (fun (name, run) => ⟨name, false, run⟩)
    ++ (optional site).map (fun (name, run) => ⟨name, true, run⟩))

end ClusterSurvey.Survey
