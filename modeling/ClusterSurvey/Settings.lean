import ClusterSurvey.Text.Blank
import ClusterSurvey.Text.Split

/-!
The settings of a survey, read from environment variables. Blanks at the ends of values do not
count; a number that cannot be read or is zero leaves the default.
-/
namespace ClusterSurvey

abbrev Environment : Type := String → Option String

structure ClientSettings where
  apiUrl : String
  tokenPath : Option String
  caPath : Option String
  requestTimeout : Nat
  deriving DecidableEq, Repr

/-- The settings of a survey. Times are in seconds. -/
structure Settings where
  storagePath : String
  gatherInterval : Nat
  /-- The names of the tasks, or `all`. -/
  gatherers : List String
  /-- The size of the buffer in bytes from which on it is flushed early. -/
  flushSize : Nat
  apiUrl : String
  tokenPath : String
  caPath : String
  metricsUrl : String
  requestTimeout : Nat
  deriving DecidableEq, Repr

inductive SettingsFault where
  /-- Nothing tells where the cluster's interface is. -/
  | noAddress
  deriving DecidableEq, Repr

def SettingsFault.message : SettingsFault → String
  | .noAddress =>
      "KUBERNETES_SERVICE_HOST environment variable is not set and INSIGHTS_API_URL is not provided"

namespace Settings

def isBlankText (s : String) : Bool := (Text.trim s.toList).isEmpty

/-- A text without slashes at its end. -/
def dropSlashes (s : String) : String :=
  String.ofList ((s.toList.reverse.dropWhile (· = '/')).reverse)

/-- The number of a 64-bit word that a text names, blanks around it left out. A plus sign may stand
in front. -/
def word? (s : String) : Option Nat :=
  let cs := Text.trim s.toList
  let ds := match cs with
    | '+' :: rest => rest
    | _ => cs
  if ds.isEmpty ∨ !ds.all (fun c => '0' ≤ c && c ≤ '9') then none
  else
    let n := ds.foldl (fun n d => n * 10 + (d.toNat - '0'.toNat)) 0
    if n < 18446744073709551616 then some n else none

def names (s : String) : List String :=
  ((Text.splitAt ',' s.toList).map Text.trim).filter (fun n => !n.isEmpty) |>.map String.ofList

def maxLogSize : Nat := 8388608

def seconds (env : Environment) (name : String) (default : Nat) : Nat :=
  (((env name).bind word?).filter (0 < ·)).getD default

/-- The address of the cluster's interface: given as such, or by host and port. -/
def apiUrl? (env : Environment) : Except SettingsFault String :=
  match (env "INSIGHTS_API_URL").filter fun url => !isBlankText url with
  | some url => .ok (dropSlashes (Text.trimmed url))
  | none =>
    match env "KUBERNETES_SERVICE_HOST" with
    | none => .error .noAddress
    | some host =>
      let port := (env "KUBERNETES_SERVICE_PORT").getD "443"
      .ok (if host.toList.contains ':' then "https://[" ++ host ++ "]:" ++ port
        else "https://" ++ host ++ ":" ++ port)

/-- Reads the settings. They cannot be read if nothing tells where the cluster's interface is. -/
def ofEnvironment (env : Environment) : Except SettingsFault Settings := do
  let apiUrl ← apiUrl? env
  let gatherers := (env "INSIGHTS_GATHERERS").elim [] names
  return {
    storagePath := (env "INSIGHTS_STORAGE_PATH").getD "/var/lib/insights-operator"
    gatherInterval := seconds env "INSIGHTS_GATHER_INTERVAL_SECS" 7200
    gatherers := if gatherers.isEmpty then ["all"] else gatherers
    flushSize := ((env "INSIGHTS_FLUSH_SIZE_BYTES").bind word?).getD maxLogSize
    apiUrl
    tokenPath :=
      (env "INSIGHTS_TOKEN_PATH").getD "/var/run/secrets/kubernetes.io/serviceaccount/token"
    caPath := (env "INSIGHTS_CA_PATH").getD "/var/run/secrets/kubernetes.io/serviceaccount/ca.crt"
    metricsUrl := dropSlashes
      ((env "INSIGHTS_METRICS_URL").getD "https://prometheus-k8s.openshift-monitoring.svc:9091")
    requestTimeout := seconds env "INSIGHTS_REQUEST_TIMEOUT_SECS" 30 }

def client (s : Settings) : ClientSettings :=
  ⟨s.apiUrl, some s.tokenPath, some s.caPath, s.requestTimeout⟩

end Settings

end ClusterSurvey
