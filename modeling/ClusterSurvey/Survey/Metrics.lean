import ClusterSurvey.Log.LineLimit
import ClusterSurvey.Settings
import ClusterSurvey.Survey.Output

/-!
Chosen series of metrics, and the first lines of the alerts that fire. A line between the two tells
how many lines of alerts there were.
-/
namespace ClusterSurvey.Survey

def alertLines : Nat := 1000

def metricSeries : List String :=
  ["etcd_object_counts", "cluster_installer",
    "namespace:container_cpu_usage_seconds_total:sum_rate",
    "namespace:container_memory_usage_bytes:sum", "vsphere_node_hw_version_total"]

def matching (series : List String) : List (String × String) := series.map ("match[]", ·)

def readSize : Nat := 8192

/-- Reads until nothing comes any more; `acc` are the pieces that were read before, last first. -/
def readToEnd (acc : List Bytes) (r : Log.LineLimit) : Bytes × Log.LineLimit :=
  match _h : r.read readSize with
  | ([], r) => (acc.reverse.flatten, r)
  | (b :: piece, r) => readToEnd ((b :: piece) :: acc) r
termination_by r.source.data.length
decreasing_by exact Log.LineLimit.length_read _h

def firstAlerts (alerts : Bytes) : Bytes × Nat :=
  let (kept, r) := readToEnd [] (.of ⟨alerts, []⟩ alertLines)
  (kept, r.total + Log.countLines r.source)

def metricsText (series alerts : Bytes) : Bytes :=
  let (kept, total) := firstAlerts alerts
  series ++ Bytes.ofString s!"# ALERTS {total}/{alertLines}\n" ++ kept

def recentMetrics {σ : Type} (c : Client σ) (baseUrl : String) : Gather σ (List Record) := do
  let federate := Settings.dropSlashes baseUrl ++ "/federate"
  let series ← Gather.call (c.raw federate (matching metricSeries))
  let alerts ← Gather.call (c.raw federate (matching ["ALERTS"]))
  return [.of "config/metrics" (.raw (metricsText series alerts))]

def metrics {σ : Type} (c : Client σ) (url : Option String) : Gather σ (List Record) :=
  match url with
  | some url => recentMetrics c url
  | none => return []

end ClusterSurvey.Survey
