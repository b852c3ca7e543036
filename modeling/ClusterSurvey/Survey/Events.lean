import ClusterSurvey.Survey.Output

/-!
Recent events of the platform's namespaces, oldest first.
-/
namespace ClusterSurvey.Survey

structure Event where
  ns : String
  time : Instant
  reason : String
  message : String
  deriving DecidableEq

def maxEventAge : Nat := 3600

def recentEvent? (now : Instant) (event : Json) : Option Event :=
  (event.timeAt? ["lastTimestamp"]).bind fun time =>
    if time < now.before maxEventAge then none
    else some ⟨event.namespaceOf, time, event.stringAt ["reason"], event.stringAt ["message"]⟩

/-- The recent events in order of time; events of one time keep their order. -/
def recentEvents (now : Instant) (events : List Json) : List Event :=
  (events.filterMap (recentEvent? now)).mergeSort fun a b => decide (a.time ≤ b.time)

def Event.toJson (e : Event) : Json :=
  .obj [("namespace", .str e.ns), ("lastTimestamp", .str (Rfc3339.renderFraction e.time)),
    ("reason", .str e.reason), ("message", .str e.message)]

/-- The record of the recent events of a namespace; namespaces that do not belong to the platform
have none. -/
def namespaceEvents {σ : Type} (c : Client σ) (ns : String) (now : Instant) :
    StateM σ (Except ClusterError (List Record)) := do
  if !ns.startsWith "openshift-" then return .ok []
  match ← c.list .events (some ns) .all with
  | .error e => return .error e
  | .ok page =>
    let items := (recentEvents now page.items).map Event.toJson
    return .ok [.of ("events/" ++ ns) (.json (.obj [("items", .arr items)]))]

end ClusterSurvey.Survey
