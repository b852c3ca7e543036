import ClusterSurvey.Proofs.Recording.Separate
import ClusterSurvey.Proofs.Run.Failures
import Mathlib.Algebra.BigOperators.Group.List.Basic

/-!
The order in which tasks hand in does not matter if their records do not get in each other's way.
Each record is then taken without a warning, so the report at a place is told from what was handed
in there alone, and what waits in the recorder is the same up to the times of capture. Times are
left out of the comparison, and so is the record about the run itself, which tells the times.
-/
namespace ClusterSurvey

namespace Recording

def runRecordFile : String := Buffer.runRecordName ++ ".json"

/-- What waits in a recorder, without the record about a run. -/
def Recorder.others (s : Recorder) : List Kept :=
  s.buffer.pending.filter fun k => k.fileName ≠ runRecordFile

namespace Recorder

theorem recordAll_bounds (now : Instant) (records : List Record) (s : Recorder) :
    (s.recordAll now records).2.bounds = s.bounds := by
  induction records generalizing s with
  | nil => rfl
  | cons r rest ih => exact ih (s.record now r).2

theorem recordAll_sound (now : Instant) (records : List Record) {s : Recorder}
    (sound : s.buffer.Sound) :
    (s.recordAll now records).2.buffer.Sound := by
  induction records generalizing s with
  | nil => exact sound
  | cons r rest ih => exact ih (Buffer.record_sound sound s.bounds now r)

theorem recordAll_separate (now : Instant) {records more : List Record} {s : Recorder}
    (separate : Separate s.bounds.archive s.buffer (records ++ more)) :
    (s.recordAll now records).1 = List.replicate records.length (.ok []) ∧
    (s.recordAll now records).2.buffer.pending.Perm (records.map (keptOf now) ++ s.buffer.pending) ∧
    Separate s.bounds.archive (s.recordAll now records).2.buffer more := by
  induction records generalizing s with
  | nil => exact ⟨rfl, List.Perm.refl _, separate⟩
  | cons r rest ih =>
    -- The first is taken, and then the others are separate from a buffer with it in it.
    obtain ⟨full, taken⟩ := Buffer.record_separate now separate
    have answer : (s.record now r).1 = .ok [] := by simp only [record, taken, Reception.result]
    have after : (s.record now r).2.buffer = s.buffer.add (keptOf now r) := by
      simp only [record, taken]
    have bounds : (s.record now r).2.bounds = s.bounds := rfl
    have waiting : (s.buffer.add (keptOf now r)).pending.Perm (keptOf now r :: s.buffer.pending) :=
      Buffer.pending_add rfl (separate.unknown r List.mem_cons_self)
    obtain ⟨answers, later, still⟩ := ih
      (by rw [bounds, after]; exact Buffer.separate_add now separate)
    refine ⟨?_, ?_, bounds ▸ still⟩
    · simp only [recordAll, answer, answers, List.length_cons, List.replicate_succ]
    · rw [after] at later
      exact later.trans ((waiting.append_left _).trans List.perm_middle)

theorem others_record (now : Instant) {r : Record}
    (about : r.fileName = runRecordFile) {s : Recorder} (sound : s.buffer.Sound) :
    (s.record now r).2.others = s.others := by
  have apart := Buffer.pending_record_other sound s.bounds now r
  rw [about] at apart
  exact apart

end Recorder

end Recording

namespace Run
open Recording (Recorder Separate keptOf runRecordFile)

variable {ρ : Type}

def Arrival.untimed (a : Arrival) : Arrival := { a with duration := 0 }

def TaskReport.untimed (r : TaskReport) : TaskReport :=
  { r with startedAt := ⟨0, 0⟩, duration := 0 }

/-- What was handed in, when each record was taken without a warning. -/
def taken (a : Arrival) : Arrival × List Answer := (a, List.replicate a.records.length (.ok []))

theorem heard_separate (now : Instant) {arrivals : List Arrival} {s : Recorder}
    (separate : Separate s.bounds.archive s.buffer (arrivals.flatMap Arrival.records)) :
    heard now arrivals s = arrivals.map taken := by
  induction arrivals generalizing s with
  | nil => rfl
  | cons a rest ih =>
    obtain ⟨answers, _, still⟩ := Recorder.recordAll_separate now separate
    simp only [heard, List.map_cons, answers]
    rw [ih (by rw [Recorder.recordAll_bounds]; exact still)]
    rfl

theorem isTaken_of_taken (a : Arrival) : ∀ answer ∈ (taken a).2, isTaken answer = true := by
  intro answer member
  rw [List.eq_of_mem_replicate member]
  rfl

theorem refusals_taken (arrivals : List Arrival) :
    ((arrivals.map taken).flatMap fun p => refusals p.1.records p.2) = [] := by
  rw [List.flatMap_map, List.flatMap_eq_nil_iff]
  intro a _
  exact (refusals_eq_nil_iff List.length_replicate).mpr (isTaken_of_taken a)

theorem records_perm {first second : List Arrival}
    (same : (first.map Arrival.untimed).Perm (second.map Arrival.untimed)) :
    (first.flatMap Arrival.records).Perm (second.flatMap Arrival.records) := by
  have handed := same.flatMap_right Arrival.records
  rw [List.flatMap_map, List.flatMap_map] at handed
  exact handed

theorem places_perm {first second : List Arrival}
    (same : (first.map Arrival.untimed).Perm (second.map Arrival.untimed)) :
    (first.map (·.index)).Perm (second.map (·.index)) := by
  have handed := same.map (·.index)
  rw [List.map_map, List.map_map] at handed
  exact handed

theorem from?_perm {first second : List Arrival} (once : (first.map (·.index)).Nodup)
    (same : (first.map Arrival.untimed).Perm (second.map Arrival.untimed)) (i : Nat) :
    (Hearing.from? (first.map taken) i).map (fun p => (p.1.untimed, p.2)) =
      (Hearing.from? (second.map taken) i).map fun p => (p.1.untimed, p.2) := by
  have place : ∀ arrivals : List Arrival,
      (Hearing.from? (arrivals.map taken) i).map (fun p => (p.1.untimed, p.2)) =
        ((arrivals.map Arrival.untimed).find? fun a => a.index = i).map taken := by
    intro arrivals
    simp only [Hearing.from?, List.find?_map, Option.map_map, Function.comp_def]
    rfl
  have apart : ((first.map Arrival.untimed).map (·.index)).Nodup := by
    rw [List.map_map]
    exact once
  have apart' := (same.map (·.index)).nodup_iff.mp apart
  rw [place, place]
  refine congrArg (Option.map taken) (Option.ext fun a => ?_)
  rw [Keyed.find?_key_eq_some_iff apart, Keyed.find?_key_eq_some_iff apart', same.mem_iff]

theorem untimed_reportAt (clock : Clock) (h : Hearing) (t : ClusterSurvey.Task ρ) (i : Nat) :
    (reportAt clock h t i).untimed =
      match (h.from? i).map fun p => (p.1.untimed, p.2) with
      | some p => (reported (.start ⟨0, 0⟩ t) p.1 p.2).untimed
      | none => (TaskReport.start ⟨0, 0⟩ t).untimed := by
  unfold reportAt
  cases h.from? i <;> rfl

/-- The same was heard from each place, times apart. -/
def Hearing.Agrees (h h' : Hearing) : Prop :=
  ∀ i, (h.from? i).map (fun p => (p.1.untimed, p.2)) = (h'.from? i).map fun p => (p.1.untimed, p.2)

theorem untimed_reportsBy {h h' : Hearing} (same : h.Agrees h') (clock clock' : Clock)
    (selected : List (ClusterSurvey.Task ρ)) :
    (reportsBy clock selected h).map TaskReport.untimed =
    (reportsBy clock' selected h').map TaskReport.untimed := by
  simp only [reportsBy, List.map_map]
  refine List.map_congr_left fun p _ => ?_
  simp only [Function.comp_apply, untimed_reportAt, same p.2]

theorem importantComplaints_agrees {h h' : Hearing} (same : h.Agrees h')
    (selected : List (ClusterSurvey.Task ρ)) :
    importantComplaints selected h = importantComplaints selected h' := by
  -- Nothing that is wrong has to do with the time it took.
  have timeless : ∀ (g : Hearing) i, (g.from? i).map complaints =
      ((g.from? i).map fun p => (p.1.untimed, p.2)).map complaints := by
    intro g i
    rw [Option.map_map]
    rfl
  simp only [importantComplaints, timeless, same _]

theorem run_reports_untimed {selection : Registry.Selection ρ} {arrivals : List Arrival}
    (once : (arrivals.map (·.index)).Nodup)
    (known : ∀ a ∈ arrivals, a.index < selection.selected.length) (clock : Clock)
    (recorder : Recorder) :
    (run selection arrivals clock recorder).1.report.reports.map TaskReport.untimed =
      ((reportsBy clock selection.selected (heard clock.endedAt arrivals recorder)).map
        TaskReport.untimed).mergeSort fun a b => decide (a.name ≤ b.name) := by
  rw [reports_eq, closed_slots once known]
  exact List.map_mergeSort fun _ _ _ _ => rfl

theorem sum_map_set {α : Type} (f : α → Nat) {l : List α} {i : Nat} {x : α}
    (here : l[i]? = some x) (y : α) :
    ((l.set i y).map f).sum + f x = (l.map f).sum + f y := by
  induction l generalizing i with
  | nil => simp at here
  | cons z rest ih =>
    cases i with
    | zero =>
      simp only [List.getElem?_cons_zero, Option.some.injEq] at here
      subst here
      simp only [List.set_cons_zero, List.map_cons, List.sum_cons]
      omega
    | succ i =>
      have later := ih here
      simp only [List.set_cons_succ, List.map_cons, List.sum_cons]
      omega

theorem collectAll_records (now : Instant) {p : Progress} {arrivals : List Arrival}
    (known : ∀ a ∈ arrivals, a.index < p.slots.length) :
    ((collectAll now p arrivals).slots.map (·.report.records)).sum =
      (p.slots.map (·.report.records)).sum +
        ((heard now arrivals p.recorder).map fun q => q.2.countP isTaken).sum := by
  induction arrivals generalizing p with
  | nil => rfl
  | cons a rest ih =>
    obtain ⟨first, later⟩ := List.forall_mem_cons.mp known
    have here := List.getElem?_eq_getElem first
    have step : collect now p a = _ := collect_eq here
    have more := sum_map_set (·.report.records) here
      (⟨reported p.slots[a.index].report a (p.recorder.recordAll now a.records).1, true⟩ : Slot)
    have counted :
        (reported p.slots[a.index].report a (p.recorder.recordAll now a.records).1).records =
        p.slots[a.index].report.records + (p.recorder.recordAll now a.records).1.countP isTaken :=
          rfl
    rw [collectAll_cons, ih (by rw [collect_length]; exact later), step]
    simp only [heard, List.map_cons, List.sum_cons] at more ⊢
    omega

theorem run_records {selection : Registry.Selection ρ} {arrivals : List Arrival}
    (known : ∀ a ∈ arrivals, a.index < selection.selected.length) (clock : Clock)
    (recorder : Recorder) :
    ((run selection arrivals clock recorder).1.report.reports.map (·.records)).sum =
      ((heard clock.endedAt arrivals recorder).map fun q => q.2.countP isTaken).sum := by
  have closed : ∀ s : Slot, (s.close clock.endedAt).records = s.report.records := by
    intro s
    unfold Slot.close
    split <;> rfl
  have begun : ((startSlots clock.startedAt selection.selected).map (·.report.records)).sum =
      0 := by
    simp [startSlots, TaskReport.start, Function.comp_def]
  have places : ∀ a ∈ arrivals, a.index <
      (startSlots clock.startedAt selection.selected).length := by
    rw [startSlots, List.length_map]
    exact known
  have slots : ((progressAt selection arrivals clock recorder).slots.map (·.report.records)).sum =
      ((startSlots clock.startedAt selection.selected).map (·.report.records)).sum +
        ((heard clock.endedAt arrivals recorder).map fun q => q.2.countP isTaken).sum :=
    collectAll_records clock.endedAt places
  rw [begun, Nat.zero_add] at slots
  rw [reports_eq, ((List.mergeSort_perm _ _).map _).sum_nat, List.map_map,
    Function.comp_def, ← slots]
  simp only [closed]

theorem run_others {selection : Registry.Selection ρ} {arrivals : List Arrival}
    (known : ∀ a ∈ arrivals, a.index < selection.selected.length) (clock : Clock)
    {recorder : Recorder} (sound : recorder.buffer.Sound)
    (separate : Separate recorder.bounds.archive recorder.buffer (arrivals.flatMap Arrival.records))
    (free : ∀ r ∈ arrivals.flatMap Arrival.records, r.fileName ≠ runRecordFile) :
    (run selection arrivals clock recorder).2.others.Perm
      ((arrivals.flatMap Arrival.records).map (keptOf clock.endedAt) ++ recorder.others) := by
  have fileName : ∀ v : Json, (Record.of Recording.Buffer.runRecordName (.json v)).fileName =
      runRecordFile := by
    intro v
    change Recording.Buffer.runRecordName ++ "." ++ "json" =
      Recording.Buffer.runRecordName ++ ".json"
    decide
  have gathered := Recorder.recordAll_sound clock.endedAt (arrivals.flatMap Arrival.records) sound
  rw [← List.append_nil (arrivals.flatMap Arrival.records)] at separate
  have waiting :=
    (Recorder.recordAll_separate clock.endedAt separate).2.1.filter fun k =>
      k.fileName ≠ runRecordFile
  rw [List.filter_append] at waiting
  rw [run_recorder, progressAt_recorder known, Recorder.others_record _ (fileName _) gathered]
  refine waiting.trans (List.Perm.of_eq (congrArg (· ++ recorder.others) ?_))
  refine List.filter_eq_self.mpr fun k member => decide_eq_true ?_
  obtain ⟨r, inside, rfl⟩ := List.mem_map.mp member
  exact free r inside

theorem run_fresh {selection : Registry.Selection ρ} {arrivals : List Arrival}
    (known : ∀ a ∈ arrivals, a.index < selection.selected.length) (clock : Clock)
    {recorder : Recorder} (sound : recorder.buffer.Sound)
    (separate : Separate recorder.bounds.archive recorder.buffer (arrivals.flatMap Arrival.records))
    (free : ∀ r ∈ arrivals.flatMap Arrival.records, r.fileName ≠ runRecordFile) :
    ((run selection arrivals clock recorder).2.others.countP fun k => k ∉ recorder.buffer.pending) =
      ((run selection arrivals clock recorder).1.report.reports.map (·.records)).sum := by
  have fresh : ∀ k ∈ (arrivals.flatMap Arrival.records).map (keptOf clock.endedAt),
      k ∉ recorder.buffer.pending := by
    intro k member waits
    obtain ⟨r, inside, rfl⟩ := List.mem_map.mp member
    have found := ((Recording.Buffer.mem_pending_iff sound).mp waits).1
    rw [show (keptOf clock.endedAt r).fileName = r.fileName from rfl, separate.unknown r inside]
      at found
    cases found
  have old : recorder.others.countP (fun k => k ∉ recorder.buffer.pending) = 0 := by
    refine List.countP_eq_zero.mpr fun k member => ?_
    simpa using List.mem_of_mem_filter member
  have all : ∀ a : Arrival, (taken a).2.countP isTaken = a.records.length := by
    intro a
    rw [List.countP_eq_length.mpr (isTaken_of_taken a)]
    exact List.length_replicate
  rw [run_records known, heard_separate clock.endedAt separate,
    (run_others known clock sound separate free).countP_eq, List.countP_append, old, Nat.add_zero,
    List.countP_eq_length.mpr fun k member => decide_eq_true (fresh k member),
    List.length_map, List.length_flatMap, List.map_map]
  exact congrArg List.sum (List.map_congr_left fun a _ => (all a).symm)

/-- What is told of a record that waits, without the time of its capture. -/
def content (k : Recording.Kept) : String × String × Option Bytes :=
  (k.fileName, k.fingerprint, k.data)

/-- Two runs in which the same was handed in, in any two orders and at any times, tell the same, if
the records do not get in each other's way: the same reports, the same errors in them and the same
error, and the same waits to be written. In both each record that is counted waits anew. -/
theorem run_independent_of_arrival_order (selection : Registry.Selection ρ)
    {first second : List Arrival} (once : (first.map (·.index)).Nodup)
    (known : ∀ a ∈ first, a.index < selection.selected.length)
    (same : (first.map Arrival.untimed).Perm (second.map Arrival.untimed)) {begun begun' : Recorder}
    (sound : begun.buffer.Sound) (buffer : begun'.buffer = begun.buffer)
    (bounds : begun'.bounds = begun.bounds)
    (separate : Separate begun.bounds.archive begun.buffer (first.flatMap Arrival.records))
    (free : ∀ r ∈ first.flatMap Arrival.records, r.fileName ≠ runRecordFile)
    (clock clock' : Clock) :
    let one := run selection first clock begun
    let other := run selection second clock' begun'
    let counted (ended : Outcome × Recorder) := (ended.1.report.reports.map (·.records)).sum
    let fresh (ended : Outcome × Recorder) :=
      ended.2.others.countP fun k => k ∉ begun.buffer.pending
    one.1.report.reports.map TaskReport.untimed = other.1.report.reports.map TaskReport.untimed ∧
    one.1.report.errors = other.1.report.errors ∧
    one.1.error = other.1.error ∧
    (one.2.others.map content).Perm (other.2.others.map content) ∧
    fresh one = counted one ∧ fresh other = counted other := by
  dsimp only
  -- What is known of the first run holds of the second one, which was handed the same.
  have records := records_perm same
  have places := places_perm same
  have once' := places.nodup_iff.mp once
  have known' : ∀ a ∈ second, a.index < selection.selected.length := by
    intro a member
    obtain ⟨b, inside, index⟩ := List.mem_map.mp (places.mem_iff.mpr (List.mem_map_of_mem member))
    rw [← index]
    exact known b inside
  have separate' := separate.perm records
  have free' : ∀ r ∈ second.flatMap Arrival.records, r.fileName ≠ runRecordFile :=
    fun r member => free r (records.mem_iff.mpr member)
  rw [← buffer, ← bounds] at separate'
  have sound' := buffer ▸ sound
  have heardOne := heard_separate clock.endedAt separate
  have heardOther := heard_separate clock'.endedAt separate'
  have agree : (heard clock.endedAt first begun).Agrees (heard clock'.endedAt second begun') := by
    rw [heardOne, heardOther]
    exact from?_perm once same
  refine ⟨?_, ?_, ?_, ?_, run_fresh known clock sound separate free, ?_⟩
  · rw [run_reports_untimed once known, run_reports_untimed once' known',
      untimed_reportsBy agree clock clock']
  · rw [run_errors known, run_errors known', heardOne, heardOther, refusals_taken, refusals_taken]
  · have important := importantComplaints_agrees agree selection.selected
    rw [run_error once known, run_error once' known', important,
      (unrecorded_eq_nil_iff _).mpr (report_taken _ _ _),
      (unrecorded_eq_nil_iff _).mpr (report_taken _ _ _)]
  · have waiting := (run_others known clock sound separate free).map content
    have waiting' := (run_others known' clock' sound' separate' free').map content
    have before : begun'.others = begun.others := by rw [Recorder.others, buffer, Recorder.others]
    rw [before, List.map_append, List.map_map] at waiting'
    rw [List.map_append, List.map_map] at waiting
    exact waiting.trans (((records.map _).append_right _).trans waiting'.symm)
  · rw [← buffer]
    exact run_fresh known' clock' sound' separate' free'

def begunRun : Recorder := Recorder.start ⟨100, 50⟩ 60

def twoArrivals : List Arrival :=
  [⟨1, .returned ⟨[⟨"v", .raw [1], none, "a"⟩, ⟨"w", .raw [2, 3], none, "b"⟩],
    [.warning "old", .io "gone"]⟩, 7⟩,
    ⟨0, .returned ⟨[⟨"x", .raw [4], none, "c"⟩], []⟩, 9⟩]

def twoArrivalsCrossed : List Arrival :=
  twoArrivals.reverse.map fun a => { a with duration := a.duration + 3 }

def twoSelected : Registry.Selection Unit := threeTasks.resolve ["nodes", "version"]

def endedOne : Outcome × Recorder := run twoSelected twoArrivals ⟨⟨0, 0⟩, ⟨10, 0⟩, 10, 0⟩ begunRun

def endedOther : Outcome × Recorder :=
  run twoSelected twoArrivalsCrossed ⟨⟨5, 0⟩, ⟨60, 0⟩, 70, 8⟩ begunRun

theorem twoArrivals_crossed :
    begunRun.buffer.Sound ∧
    Separate begunRun.bounds.archive begunRun.buffer (twoArrivals.flatMap Arrival.records) ∧
    endedOne.1.report.reports.map TaskReport.untimed =
      endedOther.1.report.reports.map TaskReport.untimed ∧
    endedOne.1.error = endedOther.1.error ∧
    (endedOne.2.others.map content).Perm (endedOther.2.others.map content) := by
  have once : (twoArrivals.map (·.index)).Nodup := by decide
  have places : ∀ i ∈ twoArrivals.map (·.index), i < twoSelected.selected.length := by decide
  have crossed : twoArrivals.map Arrival.untimed =
      (twoArrivalsCrossed.map Arrival.untimed).reverse := rfl
  have separate : Separate begunRun.bounds.archive begunRun.buffer
      (twoArrivals.flatMap Arrival.records) := by
    refine ⟨?_, by decide, by decide, by decide, by decide, by decide⟩
    simp [twoArrivals, Arrival.records, Record.marshal, Item.marshal, Except.map]
  have sound : begunRun.buffer.Sound := Recording.Buffer.empty_sound
  obtain ⟨reports, _, error, waiting, _⟩ := run_independent_of_arrival_order twoSelected once
    (fun a member => places a.index (List.mem_map_of_mem member))
      (crossed ▸ List.reverse_perm _) sound rfl rfl separate
    (by decide) ⟨⟨0, 0⟩, ⟨10, 0⟩, 10, 0⟩ ⟨⟨5, 0⟩, ⟨60, 0⟩, 70, 8⟩
  exact ⟨sound, separate, reports, error, waiting⟩

end Run

end ClusterSurvey
