import ClusterSurvey.Error
import ClusterSurvey.Json.Basic
import ClusterSurvey.Registry
import ClusterSurvey.Time.Rfc3339

/-!
Reports about the tasks of a run, and the record about the run that holds them.
-/
namespace ClusterSurvey.Run

inductive TaskStatus where
  | dataRecorded
  | dataRecordedWithErrors
  | noData
  | panic
  | timeout
  deriving DecidableEq, Repr

def TaskStatus.text : TaskStatus → String
  | dataRecorded => "Data Recorded"
  | dataRecordedWithErrors => "Data Recorded With Errors"
  | noData => "No Data"
  | panic => "Panic"
  | timeout => "Timeout"

/-- The report about a task. Times are in milliseconds. -/
structure TaskReport where
  name : String
  startedAt : Instant
  duration : Nat
  records : Nat
  errors : List String
  warnings : List String
  panic : Option String
  status : TaskStatus
  canFail : Bool
  deriving DecidableEq, Repr

namespace TaskReport

def start {ρ : Type} (now : Instant) (t : ClusterSurvey.Task ρ) : TaskReport :=
  ⟨t.name, now, 0, 0, [], [], none, .timeout, t.canFail⟩

def settledStatus (r : TaskReport) : TaskStatus :=
  if r.panic.isSome then .panic
  else if !r.errors.isEmpty then .dataRecordedWithErrors
  else if 0 < r.records then .dataRecorded
  else .noData

def settle (r : TaskReport) : TaskReport := { r with status := r.settledStatus }

/-- The messages about a task that let the run fail, if the task must not fail. -/
def failures (r : TaskReport) : List String :=
  (r.panic.map fun p => (GatherError.panic p).message).toList ++ r.errors

def toJson (r : TaskReport) : Json :=
  .obj [("name", .str r.name), ("started_at", .str (Rfc3339.renderFraction r.startedAt)),
    ("duration_in_ms", .int r.duration), ("records_count", .int r.records),
    ("errors", .arr (r.errors.map .str)), ("warnings", .arr (r.warnings.map .str)),
    ("panic", match r.panic with
      | some p => .str p
      | none => .null),
    ("status", .str r.status.text)]

end TaskReport

/-- The content of the record about a run: the reports, the errors that belong to no task alone, how
long the program has been running, in milliseconds, and the memory that it uses. -/
structure RunReport where
  reports : List TaskReport
  errors : List String
  uptime : Nat
  memory : Nat
  deriving DecidableEq, Repr

def RunReport.toJson (r : RunReport) : Json :=
  .obj [("status_reports", .arr (r.reports.map TaskReport.toJson)),
    ("errors", .arr (r.errors.map .str)),
    ("uptime_seconds", .real ((Binary64.ofNat r.uptime).div (.ofNat 1000))),
    ("container_memory_bytes_usage", .int r.memory)]

end ClusterSurvey.Run
