import ClusterSurvey.Proofs.Registry
import ClusterSurvey.Proofs.Run.Collect
import Mathlib.Data.String.Basic

/-!
A run accounts for all of its tasks. Each selected task has one report, whatever order the tasks
hand in and wherever the run is cut off: a report that tells what became of all that the task handed
in, or that it did not hand in in time. The recorder is given what was handed in, and the report
about the run at the end.
-/
namespace ClusterSurvey.Run
open Recording (Recorder)

variable {ρ : Type}

structure TimedOut (r : TaskReport) : Prop where
  status : r.status = .timeout
  records : r.records = 0
  errors : r.errors = []
  warnings : r.warnings = []
  panic : r.panic = none

/-- The report tells what a task handed in and what the recorder answered to its records. -/
structure ReportsArrival (a : Arrival) (answers : List Answer) (r : TaskReport) : Prop where
  recorded : r.records = answers.countP isTaken
  complete : r.records + (answers.countP fun answer => !isTaken answer) = a.records.length
  told : (refusals a.records answers).length = answers.countP fun answer => !isTaken answer
  errors : r.errors =
    (a.failures.filter fun e => !e.isWarning).map GatherError.message ++ refusals a.records answers
  warnings : r.warnings = (a.failures.filter GatherError.isWarning).map GatherError.message
    ++ warningsIn answers
  panic : r.panic = a.panic?
  status : r.status =
    if a.panic?.isSome then .panic
    else if r.errors ≠ [] then .dataRecordedWithErrors
    else if 0 < r.records then .dataRecorded
    else .noData

theorem reported_arrival (now : Instant) (t : ClusterSurvey.Task ρ) (a : Arrival)
    {answers : List Answer} (each : answers.length = a.records.length) :
    ReportsArrival a answers (reported (.start now t) a answers) := by
  have taken : (reported (.start now t) a answers).records = answers.countP isTaken :=
    Nat.zero_add _
  have broken : (reported (.start now t) a answers).panic = a.panic? := Option.or_none
  have split : answers.countP isTaken + (answers.countP fun answer => !isTaken answer) =
      a.records.length := by
    rw [← each, List.length_eq_countP_add_countP isTaken]
    simp
  have told := taken_add_refusals each
  refine ⟨taken, taken ▸ split, by omega, rfl, rfl, broken, ?_⟩
  change TaskReport.settledStatus (reported (.start now t) a answers) = _
  rw [TaskReport.settledStatus, broken]
  simp

/-- The slots of the selected tasks when a run begins. -/
def startSlots (now : Instant) (selected : List (ClusterSurvey.Task ρ)) : List Slot :=
  selected.map fun t => ⟨.start now t, false⟩

def progressAt (selection : Registry.Selection ρ) (arrivals : List Arrival) (clock : Clock)
    (recorder : Recorder) : Progress :=
  collectAll clock.endedAt ⟨startSlots clock.startedAt selection.selected,
    selection.unknown.map fun name => (GatherError.unknownTask name).message, recorder⟩ arrivals

theorem run_eq (selection : Registry.Selection ρ) (arrivals : List Arrival) (clock : Clock)
    (recorder : Recorder) :
    run selection arrivals clock recorder =
      finish clock (progressAt selection arrivals clock recorder) := rfl

theorem progressAt_names (selection : Registry.Selection ρ)
    (arrivals : List Arrival) (clock : Clock) (recorder : Recorder) :
    (progressAt selection arrivals clock recorder).slots.map (·.report.name) =
      selection.selected.map (·.name) := by
  rw [progressAt, collectAll_names, startSlots, List.map_map]
  rfl

theorem startSlots_getElem? (now : Instant) {selected : List (ClusterSurvey.Task ρ)} {i : Nat}
    {t : ClusterSurvey.Task ρ} (found : selected[i]? = some t) :
    (startSlots now selected)[i]? = some ⟨.start now t, false⟩ := by
  rw [startSlots, List.getElem?_map, found]
  rfl

theorem reports_eq (selection : Registry.Selection ρ) (arrivals : List Arrival) (clock : Clock)
    (recorder : Recorder) : (run selection arrivals clock recorder).1.report.reports =
      ((progressAt selection arrivals clock recorder).slots.map
        (Slot.close clock.endedAt)).mergeSort
        fun a b => decide (a.name ≤ b.name) := by
  rw [run_eq]
  simp only [finish]

theorem run_recorder (selection : Registry.Selection ρ) (arrivals : List Arrival) (clock : Clock)
    (recorder : Recorder) : (run selection arrivals clock recorder).2 =
      ((progressAt selection arrivals clock recorder).recorder.record clock.endedAt
        (.of Recording.Buffer.runRecordName
          (.json (run selection arrivals clock recorder).1.report.toJson))).2 := by
  rw [run_eq]
  simp only [finish]

theorem close_name (endedAt : Instant) (s : Slot) : (s.close endedAt).name = s.report.name := by
  unfold Slot.close
  split <;> rfl

theorem report_names_perm (selection : Registry.Selection ρ)
    (arrivals : List Arrival) (clock : Clock) (recorder : Recorder) :
    ((run selection arrivals clock recorder).1.report.reports.map (·.name)).Perm
    (selection.selected.map (·.name)) := by
  have closed : ((progressAt selection arrivals clock recorder).slots.map
      (Slot.close clock.endedAt)).map (·.name) =
      selection.selected.map (·.name) := by
    rw [List.map_map, Function.comp_def]
    simp only [close_name]
    exact progressAt_names selection arrivals clock recorder
  rw [reports_eq, ← closed]
  exact (List.mergeSort_perm _ _).map _

theorem report_names_ascending {selection : Registry.Selection ρ}
    (apart : (selection.selected.map (·.name)).Nodup) (arrivals : List Arrival) (clock : Clock)
    (recorder : Recorder) :
    ((run selection arrivals clock recorder).1.report.reports.map (·.name)).Pairwise (· < ·) := by
  have distinct : ((run selection arrivals clock recorder).1.report.reports.map (·.name)).Nodup :=
    (report_names_perm selection arrivals clock recorder).nodup_iff.mpr apart
  have sorted : (run selection arrivals clock recorder).1.report.reports.Pairwise fun a b =>
      decide (a.name ≤ b.name) = true := by
    rw [reports_eq]
    refine List.pairwise_mergeSort ?_ ?_ _
    · intro a b c first second
      exact decide_eq_true (le_trans (of_decide_eq_true first) (of_decide_eq_true second))
    · intro a b
      rw [Bool.or_eq_true, decide_eq_true_eq, decide_eq_true_eq]
      exact le_total a.name b.name
  have ordered := List.pairwise_map.mpr (sorted.imp fun le => of_decide_eq_true le)
  exact (ordered.and distinct).imp fun both => lt_of_le_of_ne both.1 both.2

theorem mem_reports_of_slot {selection : Registry.Selection ρ}
    {arrivals : List Arrival} {clock : Clock} {recorder : Recorder} {i : Nat} {slot : Slot}
    (here : (progressAt selection arrivals clock recorder).slots[i]? = some slot) :
    slot.close clock.endedAt ∈ (run selection arrivals clock recorder).1.report.reports := by
  rw [reports_eq]
  exact List.mem_mergeSort.mpr (List.mem_map_of_mem (List.mem_of_getElem? here))

theorem report_of_missing {selection : Registry.Selection ρ} {arrivals : List Arrival} {i : Nat}
    {t : ClusterSurvey.Task ρ} (found : selection.selected[i]? = some t)
    (missing : i ∉ arrivals.map (·.index)) (clock : Clock) (recorder : Recorder) :
    ∃ r ∈ (run selection arrivals clock recorder).1.report.reports, r.name = t.name ∧
      TimedOut r := by
  have slot : (progressAt selection arrivals clock recorder).slots[i]? =
      some ⟨.start clock.startedAt t, false⟩ := by
    rw [progressAt, collectAll_other _ _ missing]
    exact startSlots_getElem? _ found
  exact ⟨_, mem_reports_of_slot slot, rfl, ⟨rfl, rfl, rfl, rfl, rfl⟩⟩

theorem progressAt_recorder {selection : Registry.Selection ρ} {arrivals : List Arrival}
    (known : ∀ a ∈ arrivals, a.index < selection.selected.length) (clock : Clock)
    (recorder : Recorder) :
    (progressAt selection arrivals clock recorder).recorder =
      (recorder.recordAll clock.endedAt (arrivals.flatMap Arrival.records)).2 := by
  refine collectAll_recorder _ _ fun a member => ?_
  rw [startSlots, List.length_map]
  exact known a member

theorem report_of_arrival {selection : Registry.Selection ρ}
    {before after : List Arrival} {a : Arrival} {t : ClusterSurvey.Task ρ}
    (found : selection.selected[a.index]? = some t)
    (once : ((before ++ a :: after).map (·.index)).Nodup) (clock : Clock) (recorder : Recorder) :
    ∃ r ∈ (run selection (before ++ a :: after) clock recorder).1.report.reports, r.name = t.name ∧
      ReportsArrival a ((progressAt selection before clock recorder).recorder.recordAll
        clock.endedAt a.records).1 r := by
  have slot := collectAll_self clock.endedAt (progressAt selection [] clock recorder)
    (startSlots_getElem? clock.startedAt found) once
  exact ⟨_, mem_reports_of_slot slot, rfl,
    reported_arrival clock.startedAt t a (Recorder.recordAll_length _ _ _)⟩

/-- A run has one report for each selected task, in ascending order of their names. A task whose
result was not taken before the run ended is reported as timed out, without anything else. One whose
result was taken is reported with all that it handed in and the answers that the recorder gave then.
The recorder was given the records of these tasks in the order in which they came, and the report
itself. -/
theorem run_accounts_for_every_task {registry : Registry ρ} (ordered : registry.Ordered)
    (names : List String) {order : List Arrival} (once : (order.map (·.index)).Nodup)
    (known : ∀ a ∈ order, a.index < (registry.resolve names).selected.length)
    (point : Nat) (clock : Clock) (recorder : Recorder) :
    let selected := (registry.resolve names).selected
    let collected := order.take point
    let ended := run (registry.resolve names) collected clock recorder
    let reports := ended.1.report.reports
    (reports.map (·.name)).Perm (selected.map (·.name)) ∧
    (reports.map (·.name)).Pairwise (· < ·) ∧
    (∀ i t, selected[i]? = some t → i ∉ collected.map (·.index) →
      ∃ r ∈ reports, r.name = t.name ∧ TimedOut r) ∧
    (∀ before a later, collected = before ++ a :: later → ∀ t, selected[a.index]? = some t →
      let earlier := (recorder.recordAll clock.endedAt (before.flatMap Arrival.records)).2
      ∃ r ∈ reports, r.name = t.name ∧
        ReportsArrival a (earlier.recordAll clock.endedAt a.records).1 r) ∧
    let gathered := (recorder.recordAll clock.endedAt (collected.flatMap Arrival.records)).2
    let metadata := Record.of Recording.Buffer.runRecordName (.json ended.1.report.toJson)
    ended.2 = (gathered.record clock.endedAt metadata).2 := by
  dsimp only
  have part : (order.take point).Sublist order := List.take_sublist point order
  have inRange : ∀ a ∈ order.take point, a.index < (registry.resolve names).selected.length :=
    fun a member => known a (part.subset member)
  refine ⟨report_names_perm _ _ _ _,
    report_names_ascending (Registry.resolve_names_nodup ordered names) _ _ _,
    fun i t found missing => report_of_missing found missing clock recorder, ?_, ?_⟩
  · intro before a later split t found
    have first : ∀ b ∈ before, b.index < (registry.resolve names).selected.length :=
      fun b member => inRange b (by simp [split, member])
    have apart : ((before ++ a :: later).map (·.index)).Nodup := split ▸ (part.map _).nodup once
    rw [split, ← progressAt_recorder first clock recorder]
    exact report_of_arrival found apart clock recorder
  · rw [← progressAt_recorder inRange clock recorder]
    exact run_recorder _ _ _ _

def threeTasks : Registry Unit :=
  .ofList [⟨"nodes", true, ()⟩, ⟨"version", false, ()⟩, ⟨"events", true, ()⟩]

/-- One task has a record that does not fit, one breaks down, and one would come after the end of
the run. -/
def threeArrivals : List Arrival :=
  [⟨1, .returned ⟨[⟨"v", .raw [1], none, "a"⟩, ⟨"w", .raw [2, 3], none, "b"⟩],
    [.warning "old", .io "gone"]⟩, 7⟩,
    ⟨2, .panicked (.text "lost"), 2⟩, ⟨0, .returned ⟨[⟨"x", .raw [4], none, "c"⟩], []⟩, 9⟩]

theorem threeTasks_accounted :
    let names := ["nodes", "version", "none", "events"]
    let begun := Recorder.start ⟨1, 1⟩ 60
    let clock : Clock := ⟨⟨0, 0⟩, ⟨10, 0⟩, 10, 0⟩
    let reports :=
      (run (threeTasks.resolve names) (threeArrivals.take 2) clock begun).1.report.reports
    threeTasks.Ordered ∧ (threeArrivals.map (·.index)).Nodup ∧
      (∀ a ∈ threeArrivals, a.index < (threeTasks.resolve names).selected.length) ∧
      (∃ r ∈ reports, r.name = "nodes" ∧ TimedOut r) ∧
      ∃ r ∈ reports, r.name = "version" ∧ r.records = 1 ∧ r.status = .dataRecordedWithErrors := by
  intro names begun clock reports
  have ordered : threeTasks.Ordered := Registry.ofList_ordered _
  have once : (threeArrivals.map (·.index)).Nodup := by decide
  have known : ∀ a ∈ threeArrivals, a.index < (threeTasks.resolve names).selected.length := by
    intro a member
    have few : a.index ∈ threeArrivals.map (·.index) := List.mem_map_of_mem member
    have three : (threeTasks.resolve names).selected.length = 3 := by decide
    rw [three]
    revert few
    generalize a.index = i
    revert i
    decide
  obtain ⟨_, _, missing, arrived, _⟩ :=
    run_accounts_for_every_task ordered names once known 2 clock begun
  refine ⟨ordered, once, known, ?_, ?_⟩
  · exact missing 0 ⟨"nodes", true, ()⟩ rfl (by decide)
  · obtain ⟨r, member, name, accounts⟩ := arrived [] _ _ rfl ⟨"version", false, ()⟩ rfl
    have told : r.errors ≠ [] := by
      rw [accounts.errors]
      decide
    refine ⟨r, member, name, accounts.recorded.trans (by decide), ?_⟩
    rw [accounts.status, if_neg (by decide), if_pos told]

end ClusterSurvey.Run
