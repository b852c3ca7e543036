import ClusterSurvey.Proofs.Messages
import ClusterSurvey.Proofs.Run.Reports

/-!
The error of a run. It is told by the tasks that must not fail, among those that handed in: that a
task broke down, its errors, and its records that were not taken. Nothing else of a run is in it
except that the report about the run could not be recorded. Names that no task has are told in the
report instead.
-/
namespace ClusterSurvey.Run
open Recording (Recorder)

variable {ρ : Type}

def complaints (p : Arrival × List Answer) : List String :=
  (p.1.panic?.map fun text => (GatherError.panic text).message).toList
    ++ (p.1.failures.filter fun e => !e.isWarning).map GatherError.message
    ++ refusals p.1.records p.2

/-- What is wrong with the tasks that must not fail, in the order of the selection. -/
def importantComplaints (selected : List (ClusterSurvey.Task ρ)) (h : Hearing) : List String :=
  selected.zipIdx.flatMap fun p => if p.1.canFail then []
    else ((h.from? p.2).map complaints).getD []

/-- What is wrong with the report about a run, given the answer to its record. -/
def unrecorded : Answer → List String
  | .ok _ => []
  | .error e => ["unable to record archive metadata: " ++ e.message]

structure Flawless (p : Arrival × List Answer) : Prop where
  panic : p.1.panic? = none
  failures : ∀ e ∈ p.1.failures, e.isWarning = true
  records : ∀ answer ∈ p.2, isTaken answer = true

theorem refusals_eq_nil_iff {records : List Record} {answers : List Answer}
    (each : answers.length = records.length) :
    refusals records answers = [] ↔ ∀ answer ∈ answers, isTaken answer = true := by
  have balance := taken_add_refusals each
  rw [← List.countP_eq_length, ← List.length_eq_zero_iff]
  omega

theorem complaints_eq_nil_iff {p : Arrival × List Answer} (each : p.2.length = p.1.records.length) :
    complaints p = [] ↔ Flawless p := by
  simp only [complaints, List.append_eq_nil_iff, refusals_eq_nil_iff each]
  constructor
  · rintro ⟨⟨panic, failures⟩, records⟩
    refine ⟨by simpa using panic, fun e member => ?_, records⟩
    simpa using List.filter_eq_nil_iff.mp (List.map_eq_nil_iff.mp failures) e member
  · intro flawless
    refine ⟨⟨by simp [flawless.panic], ?_⟩, flawless.records⟩
    rw [List.map_eq_nil_iff, List.filter_eq_nil_iff]
    intro e member
    simp [flawless.failures e member]

theorem canFail_reportAt (clock : Clock) (h : Hearing) (t : ClusterSurvey.Task ρ) (i : Nat) :
    (reportAt clock h t i).canFail = t.canFail := by
  unfold reportAt
  cases h.from? i <;> rfl

theorem failures_reportAt (clock : Clock) (h : Hearing) (t : ClusterSurvey.Task ρ) (i : Nat) :
    (reportAt clock h t i).failures = ((h.from? i).map complaints).getD [] := by
  unfold reportAt
  cases h.from? i with
  | none => rfl
  | some p =>
    simp [Slot.after, Slot.close, TaskReport.failures, reported, TaskReport.settle,
      TaskReport.start, complaints]

theorem importantFailures_reportsBy (clock : Clock)
    (selected : List (ClusterSurvey.Task ρ)) (h : Hearing) :
    importantFailures (reportsBy clock selected h) =
      uniqueMessages (importantComplaints selected h) := by
  have each : ∀ places : List (ClusterSurvey.Task ρ × Nat),
      ((places.map fun p => reportAt clock h p.1 p.2).filter fun r =>
          !r.canFail).flatMap TaskReport.failures =
        places.flatMap fun p => if p.1.canFail then []
          else ((h.from? p.2).map complaints).getD [] := by
    intro places
    induction places with
    | nil => rfl
    | cons p rest ih =>
      by_cases harmless : p.1.canFail = true
      · simp [canFail_reportAt, harmless, ih]
      · simp [canFail_reportAt, harmless, ih, failures_reportAt]
  exact congrArg uniqueMessages (each selected.zipIdx)

theorem mem_importantComplaints_iff {selected : List (ClusterSurvey.Task ρ)} {now : Instant}
    {arrivals : List Arrival} (once : (arrivals.map (·.index)).Nodup) (s : Recorder) (m : String) :
    m ∈ importantComplaints selected (heard now arrivals s) ↔
      ∃ p ∈ heard now arrivals s, ∃ t, selected[p.1.index]? = some t ∧ t.canFail = false ∧
        m ∈ complaints p := by
  simp only [importantComplaints, List.mem_flatMap, Prod.exists, List.mem_zipIdx_iff_getElem?]
  constructor
  · rintro ⟨t, i, place, told⟩
    by_cases harmless : t.canFail = true
    · simp [harmless] at told
    · cases found : (heard now arrivals s).from? i with
      | none => simp [found] at told
      | some p =>
        obtain ⟨member, rfl⟩ := (from?_eq_some_iff once).mp found
        simp only [harmless, found] at told
        exact ⟨p.1, p.2, member, t, place, by simpa using harmless, by simpa using told⟩
  · rintro ⟨a, answers, member, t, place, important, told⟩
    refine ⟨t, a.index, place, ?_⟩
    rw [(from?_eq_some_iff once).mpr ⟨member, rfl⟩]
    simpa [important] using told

theorem importantComplaints_eq_nil_iff {selected : List (ClusterSurvey.Task ρ)} {now : Instant}
    {arrivals : List Arrival} (once : (arrivals.map (·.index)).Nodup) (s : Recorder) :
    importantComplaints selected (heard now arrivals s) = [] ↔ ∀ p ∈ heard now arrivals s, ∀ t,
      selected[p.1.index]? = some t → t.canFail = false → Flawless p := by
  rw [List.eq_nil_iff_forall_not_mem]
  constructor
  · intro quiet p member t place important
    rw [← complaints_eq_nil_iff (heard_answers member), List.eq_nil_iff_forall_not_mem]
    intro m told
    exact quiet m ((mem_importantComplaints_iff once s m).mpr ⟨p, member, t, place,
      important, told⟩)
  · intro fine m told
    obtain ⟨p, member, t, place, important, told⟩ := (mem_importantComplaints_iff once s m).mp told
    rw [(complaints_eq_nil_iff (heard_answers member)).mpr (fine p member t place important)]
      at told
    cases told

theorem unrecorded_eq_nil_iff (answer : Answer) :
    unrecorded answer = [] ↔ isTaken answer = true := by
  cases answer <;> simp [unrecorded, isTaken]

theorem aggregated_eq (messages : List String) : aggregated messages =
    if messages = [] then none else some (.aggregated (", ".intercalate messages.eraseDups)) := by
  rw [aggregated, uniqueMessages_eq_eraseDups]
  cases messages <;> rfl

theorem aggregated_append (first second : List String) :
    aggregated (uniqueMessages first ++ second) = aggregated (first ++ second) := by
  have empty : (uniqueMessages first ++ second).isEmpty = (first ++ second).isEmpty := by
    rw [Bool.eq_iff_iff]
    simp [uniqueMessages_eq_nil]
  rw [aggregated, aggregated, empty, uniqueMessages_append]

theorem finish_error (clock : Clock) (p : Progress) : (finish clock p).1.error =
    aggregated (importantFailures (p.slots.map (Slot.close clock.endedAt)) ++
      unrecorded (p.recorder.record clock.endedAt
        (.of Recording.Buffer.runRecordName (.json (finish clock p).1.report.toJson))).1) := by
  simp only [finish]
  generalize (Recorder.record clock.endedAt _ p.recorder).1 = answer
  cases answer <;> rfl

theorem run_error {selection : Registry.Selection ρ} {arrivals : List Arrival}
    (once : (arrivals.map (·.index)).Nodup)
    (known : ∀ a ∈ arrivals, a.index < selection.selected.length) (clock : Clock)
    (recorder : Recorder) : (run selection arrivals clock recorder).1.error =
      aggregated (importantComplaints selection.selected (heard clock.endedAt arrivals recorder) ++
        unrecorded
          ((recorder.recordAll clock.endedAt (arrivals.flatMap Arrival.records)).2.record
            clock.endedAt (.of Recording.Buffer.runRecordName
            (.json (run selection arrivals clock recorder).1.report.toJson))).1) := by
  rw [run_eq, finish_error, closed_slots once known, importantFailures_reportsBy, aggregated_append,
    progressAt_recorder known]

theorem run_errors {selection : Registry.Selection ρ} {arrivals : List Arrival}
    (known : ∀ a ∈ arrivals, a.index < selection.selected.length) (clock : Clock)
    (recorder : Recorder) :
    (run selection arrivals clock recorder).1.report.errors =
      uniqueMessages (selection.unknown.map (fun name => (GatherError.unknownTask name).message) ++
        (heard clock.endedAt arrivals recorder).flatMap fun p => refusals p.1.records p.2) := by
  rw [← progressAt_errors known, run_eq]
  simp only [finish]

theorem report_taken (now : Instant) (v : Json) (s : Recorder) :
    isTaken (s.record now (.of Recording.Buffer.runRecordName (.json v))).1 = true := by
  have marshalled : (Record.of Recording.Buffer.runRecordName (.json v)).marshal =
      .ok (Item.jsonBytes v, Digest.sha256Hex (Item.jsonBytes v)) := rfl
  simp only [Recorder.record, Recording.Buffer.record, marshalled]
  split
  · rfl
  · rw [Recording.Buffer.accept, if_neg fun refused => refused.1 rfl]
    rfl

/-- A run ends without an error just if each task that must not fail and handed in did so without a
flaw, and its report was recorded. Otherwise the error is what is wrong with these tasks, in the
order of the selection, and with the report; each message stands once, where it came first. No
message comes from anything else. A name that was asked for and that no task has is told once in the
report. -/
theorem run_fails_by_important_tasks (registry : Registry ρ) (names : List String)
    {order : List Arrival} (once : (order.map (·.index)).Nodup)
    (known : ∀ a ∈ order, a.index < (registry.resolve names).selected.length)
    (point : Nat) (clock : Clock) (recorder : Recorder) :
    let selected := (registry.resolve names).selected
    let collected := order.take point
    let ended := (run (registry.resolve names) collected clock recorder).1
    let hearing := heard clock.endedAt collected recorder
    let gathered := (recorder.recordAll clock.endedAt (collected.flatMap Arrival.records)).2
    let answer := (gathered.record clock.endedAt
      (.of Recording.Buffer.runRecordName (.json ended.report.toJson))).1
    let important := importantComplaints selected hearing
    let fine :=
      (∀ p ∈ hearing, ∀ t, selected[p.1.index]? = some t → t.canFail = false → Flawless p) ∧
      isTaken answer = true
    (ended.error = none ↔ fine) ∧
    (¬ fine → ended.error =
      some (.aggregated (", ".intercalate (important ++ unrecorded answer).eraseDups))) ∧
    (∀ m ∈ important, ∃ p ∈ hearing, ∃ t, selected[p.1.index]? = some t ∧ t.canFail = false ∧
      m ∈ complaints p) ∧
    (Registry.allTasks ∉ names → ∀ name ∈ names, name ∉ registry.names →
      ended.report.errors.count (GatherError.unknownTask name).message = 1) := by
  intro selected collected ended hearing gathered answer important fine
  have part : collected.Sublist order := List.take_sublist point order
  have apart : (collected.map (·.index)).Nodup := (part.map _).nodup once
  have inRange : ∀ a ∈ collected, a.index < selected.length :=
    fun a member => known a (part.subset member)
  have told : ended.error = aggregated (important ++ unrecorded answer) :=
    run_error apart inRange clock recorder
  have quiet : important ++ unrecorded answer = [] ↔ fine := by
    rw [List.append_eq_nil_iff, importantComplaints_eq_nil_iff apart, unrecorded_eq_nil_iff]
  rw [aggregated_eq] at told
  refine ⟨?_, ?_, fun m member => (mem_importantComplaints_iff apart recorder m).mp member, ?_⟩
  · rw [told, ← quiet]
    by_cases empty : important ++ unrecorded answer = []
    · simp only [empty, ↓reduceIte]
    · simp only [empty, ↓reduceIte, reduceCtorEq]
  · intro flawed
    rw [told, if_neg fun empty => flawed (quiet.mp empty)]
  · intro some name asked missing
    have unknown := (Registry.mem_resolve_unknown_iff some name).mpr ⟨asked, missing⟩
    rw [run_errors inRange]
    exact count_uniqueMessages (List.mem_append_left _ (List.mem_map_of_mem unknown))

def threeTasksEnded : Outcome :=
  (run (threeTasks.resolve ["nodes", "version", "none", "events"]) (threeArrivals.take 2)
    ⟨⟨0, 0⟩, ⟨10, 0⟩, 10, 0⟩ (Recorder.start ⟨1, 1⟩ 60)).1

theorem threeTasks_failure :
    threeTasksEnded.error =
      some (.aggregated ("gone, unable to record w: recorder error: record w(size=2) "
      ++ "exceeds the archive size limit 1 and will not be included in the archive")) ∧
    threeTasksEnded.report.errors.count (GatherError.unknownTask "none").message = 1 := by
  have once : (threeArrivals.map (·.index)).Nodup := by decide
  have places : ∀ i ∈ threeArrivals.map (·.index),
      i < (threeTasks.resolve ["nodes", "version", "none", "events"]).selected.length := by decide
  obtain ⟨_, failed, _, unknown⟩ :=
    run_fails_by_important_tasks threeTasks ["nodes", "version", "none", "events"] once
    (fun a member => places a.index (List.mem_map_of_mem member)) 2 ⟨⟨0, 0⟩, ⟨10, 0⟩, 10, 0⟩
      (Recorder.start ⟨1, 1⟩ 60)
  refine ⟨?_, unknown (by decide) "none" (by decide) (by decide)⟩
  rw [threeTasksEnded, failed ?_, (unrecorded_eq_nil_iff _).mpr (report_taken _ _ _),
    List.append_nil]
  · decide +kernel
  · -- The task "version" handed in an error.
    rintro ⟨fine, _⟩
    have version := fine _ List.mem_cons_self ⟨"version", false, ()⟩ rfl rfl
    exact absurd (version.failures (.io "gone") (by decide)) (by decide)

end ClusterSurvey.Run
