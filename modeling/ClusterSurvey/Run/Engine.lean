import ClusterSurvey.Recording.Recorder
import ClusterSurvey.Run.Report
import ClusterSurvey.Survey.Output

/-!
Runs of selected tasks. Tasks hand in what they found in any order; the run takes it from them one
after the other until all are done or the run is cancelled. A task that has not handed in by then is
reported as timed out, and nothing of it is recorded.
-/
namespace ClusterSurvey.Run

inductive Payload where
  | text (s : String)
  | other
  deriving DecidableEq, Repr

def Payload.message : Payload → String
  | text s => s
  | other => "unknown panic"

inductive Ending where
  | returned (output : Output)
  | panicked (payload : Payload)

/-- What a task handed in: its place among the selected tasks, its end, and how long it took in
milliseconds. -/
structure Arrival where
  index : Nat
  ending : Ending
  duration : Nat

structure Clock where
  startedAt : Instant
  endedAt : Instant
  uptime : Nat
  memory : Nat

structure Slot where
  report : TaskReport
  collected : Bool
  deriving DecidableEq, Repr

/-- A run under way: the slots of the selected tasks, the errors that belong to no task alone, and
the recorder. -/
structure Progress where
  slots : List Slot
  errors : List String
  recorder : Recording.Recorder

def addError (r : TaskReport) (e : GatherError) : TaskReport :=
  if e.isWarning then { r with warnings := r.warnings ++ [e.message] }
    else { r with errors := r.errors ++ [e.message] }

def addRecord (now : Instant) (report : TaskReport) (errors : List String)
    (recorder : Recording.Recorder) (r : Record) : TaskReport × List String × Recording.Recorder :=
  match recorder.record now r with
  | (.ok warnings, recorder) =>
    ({ report with records := report.records + 1, warnings := report.warnings ++ warnings },
        errors, recorder)
  | (.error e, recorder) =>
    let message := "unable to record " ++ r.fileName ++ ": " ++ e.message
    ({ report with errors := report.errors ++ [message] }, errors ++ [message], recorder)

def addRecords (now : Instant) : TaskReport → List String → Recording.Recorder → List Record →
    TaskReport × List String × Recording.Recorder
  | report, errors, recorder, [] => (report, errors, recorder)
  | report, errors, recorder, r :: rest =>
    let (report, errors, recorder) := addRecord now report errors recorder r
    addRecords now report errors recorder rest

def collectInto (now : Instant) (report : TaskReport) (a : Arrival) (errors : List String)
    (recorder : Recording.Recorder) : TaskReport × List String × Recording.Recorder :=
  let report := { report with duration := a.duration }
  match a.ending with
  | .panicked payload =>
      (({ report with panic := some payload.message } : TaskReport).settle, errors, recorder)
  | .returned output =>
    let (report, errors, recorder) :=
      addRecords now (output.errors.foldl addError report) errors recorder output.records
    (report.settle, errors, recorder)

def collect (now : Instant) (p : Progress) (a : Arrival) : Progress :=
  match p.slots[a.index]? with
  | none => p
  | some slot =>
    let (report, errors, recorder) := collectInto now slot.report a p.errors p.recorder
    ⟨p.slots.set a.index ⟨report, true⟩, errors, recorder⟩

def Slot.close (endedAt : Instant) (s : Slot) : TaskReport :=
  if s.collected then s.report
  else
    { s.report with
      status := .timeout
      duration := ((endedAt.since s.report.startedAt) / 1000000).toNat }

/-- What came of a run: the report, and an error if a task that must not fail failed or the report
could not be recorded. -/
structure Outcome where
  report : RunReport
  error : Option GatherError

def importantFailures (reports : List TaskReport) : List String :=
  uniqueMessages ((reports.filter fun r => !r.canFail).flatMap TaskReport.failures)

def aggregated (messages : List String) : Option GatherError :=
  if messages.isEmpty then none else some (.aggregated (", ".intercalate (uniqueMessages messages)))

def finish (clock : Clock) (p : Progress) : Outcome × Recording.Recorder :=
  let reports := p.slots.map (Slot.close clock.endedAt)
  let report : RunReport := {
    reports := reports.mergeSort fun a b => decide (a.name ≤ b.name)
    errors := uniqueMessages p.errors
    uptime := clock.uptime
    memory := clock.memory }
  let (result, recorder) :=
    p.recorder.record clock.endedAt (.of Recording.Buffer.runRecordName (.json report.toJson))
  let unrecorded := match result with
    | .ok _ => []
    | .error e => ["unable to record archive metadata: " ++ e.message]
  (⟨report, aggregated (importantFailures reports ++ unrecorded)⟩, recorder)

/-- A run of the tasks with some names. `arrivals` is what the selected tasks handed in before the
run ended, in the order in which it came. -/
def run {ρ : Type} (selection : Registry.Selection ρ) (arrivals : List Arrival) (clock : Clock)
    (recorder : Recording.Recorder) : Outcome × Recording.Recorder :=
  let unknown := selection.unknown.map fun name => (GatherError.unknownTask name).message
  let slots := selection.selected.map fun t => (⟨.start clock.startedAt t, false⟩ : Slot)
  finish clock (arrivals.foldl (collect clock.endedAt) ⟨slots, unknown, recorder⟩)

def Outcome.result (o : Outcome) : Except GatherError Unit :=
  match o.error with
  | some e => .error e
  | none => .ok ()

end ClusterSurvey.Run
