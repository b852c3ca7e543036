import ClusterSurvey.Survey.Output

/-!
Why connections inside the cluster failed. For each reason and message the time of the latest
failure is kept.
-/
namespace ClusterSurvey.Survey

structure ConnectivityFailure where
  reason : String
  message : String
  time : Instant
  deriving DecidableEq

def connectivityFailure? (entry : Json) : Option ConnectivityFailure :=
  match entry.get? "success" with
  | some (.bool true) => none
  | _ => (entry.timeAt? ["time"]).map fun time =>
      ⟨entry.stringAt ["reason"], entry.stringAt ["message"], time⟩

def connectivityEntries (check : Json) : List Json :=
  check.itemsAt ["status", "failures"] ++
    (check.itemsAt ["status", "outages"]).flatMap fun outage =>
      outage.itemsAt ["startLogs"] ++ outage.itemsAt ["endLogs"]

abbrev LatestTimes : Type := List (String × Instant)

def noteTime (message : String) (time : Instant) : LatestTimes → LatestTimes :=
  Keyed.upsert message fun kept => (kept.map (·.latest time)).getD time

/-- Keeps a failure under its reason, reasons in ascending order. -/
def noteFailure (f : ConnectivityFailure) :
    List (String × LatestTimes) → List (String × LatestTimes) :=
  Keyed.upsert f.reason fun times => noteTime f.message f.time (times.getD [])

def connectivityReasons (checks : List Json) : List (String × LatestTimes) :=
  ((checks.flatMap connectivityEntries).filterMap connectivityFailure?).foldl
    (fun acc f => noteFailure f acc) []

def reasonsJson (reasons : List (String × LatestTimes)) : Json :=
  .obj (reasons.map fun (r, times) =>
    (r, .obj (times.map fun (m, t) => (m, .str (Rfc3339.renderFraction t)))))

def connectivityChecks {σ : Type} (c : Client σ) : Gather σ (List Record) := do
  let page ← Gather.call (c.list .podNetworkConnectivityChecks none .all)
  return [.of "config/podnetworkconnectivitychecks"
    (.json (reasonsJson (connectivityReasons page.items)))]

end ClusterSurvey.Survey
