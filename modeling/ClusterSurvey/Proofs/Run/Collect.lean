import ClusterSurvey.Run.Engine
import Mathlib.Data.List.Basic

/-!
What a run takes from its tasks. Recording a list of records gives an answer for each; the report
about a task is told from what the task handed in and these answers alone, and so is what the
recorder holds afterwards. Nothing else of a run is touched when a task hands in.
-/
namespace ClusterSurvey

/-- The answers of a recorder to records that come one after the other, and the recorder after
them. -/
def Recording.Recorder.recordAll (now : Instant) : List Record → Recorder →
    List (Except GatherError (List String)) × Recorder
  | [], s => ([], s)
  | r :: rest, s =>
    let (answer, s) := s.record now r
    let (answers, s) := recordAll now rest s
    (answer :: answers, s)

namespace Recording.Recorder

theorem recordAll_append (now : Instant) (first second : List Record) (s : Recorder) :
    (s.recordAll now (first ++ second)).2 = ((s.recordAll now first).2.recordAll now second).2 := by
  induction first generalizing s with
  | nil => rfl
  | cons r rest ih => exact ih (s.record now r).2

theorem recordAll_length (now : Instant) (records : List Record) (s : Recorder) :
    (s.recordAll now records).1.length = records.length := by
  induction records generalizing s with
  | nil => rfl
  | cons r rest ih => exact congrArg Nat.succ (ih (s.record now r).2)

end Recording.Recorder

namespace Run
open Recording (Recorder)

abbrev Answer : Type := Except GatherError (List String)

def isTaken : Answer → Bool
  | .ok _ => true
  | .error _ => false

def Arrival.records (a : Arrival) : List Record :=
  match a.ending with
  | .returned output => output.records
  | .panicked _ => []

def Arrival.failures (a : Arrival) : List GatherError :=
  match a.ending with
  | .returned output => output.errors
  | .panicked _ => []

def Arrival.panic? (a : Arrival) : Option String :=
  match a.ending with
  | .returned _ => none
  | .panicked payload => some payload.message

def refusal? (r : Record) : Answer → Option String
  | .ok _ => none
  | .error e => some ("unable to record " ++ r.fileName ++ ": " ++ e.message)

/-- The messages about the records that were not taken. -/
def refusals (records : List Record) (answers : List Answer) : List String :=
  (records.zip answers).filterMap fun p => refusal? p.1 p.2

def warningsIn (answers : List Answer) : List String :=
  answers.flatMap fun answer =>
    match answer with
    | .ok warnings => warnings
    | .error _ => []

theorem refusals_cons (r : Record) (answer : Answer) (records : List Record)
    (answers : List Answer) :
    refusals (r :: records) (answer :: answers) = (refusal? r answer).toList
      ++ refusals records answers := by
  cases answer <;> rfl

/-- A report with what a task handed in and the answers to its records. -/
def reported (report : TaskReport) (a : Arrival) (answers : List Answer) : TaskReport :=
  TaskReport.settle { report with
    duration := a.duration
    records := report.records + answers.countP isTaken
    errors := report.errors ++ (a.failures.filter fun e => !e.isWarning).map GatherError.message
      ++ refusals a.records answers
    warnings := report.warnings ++ (a.failures.filter GatherError.isWarning).map GatherError.message
      ++ warningsIn answers
    panic := a.panic?.or report.panic }

theorem foldl_addError (es : List GatherError) (report : TaskReport) :
    es.foldl addError report = { report with
      errors := report.errors ++ (es.filter fun e => !e.isWarning).map GatherError.message
      warnings :=
        report.warnings ++ (es.filter GatherError.isWarning).map GatherError.message } := by
  induction es generalizing report with
  | nil => simp
  | cons e rest ih =>
    rw [List.foldl_cons, ih, addError]
    cases kind : e.isWarning with
    | true => simp [kind]
    | false => simp [kind]

theorem addRecords_eq (now : Instant) (report : TaskReport) (errors : List String) (s : Recorder)
    (records : List Record) :
    addRecords now report errors s records =
      let answers := (s.recordAll now records).1
      ({ report with
        records := report.records + answers.countP isTaken
        errors := report.errors ++ refusals records answers
        warnings := report.warnings ++ warningsIn answers },
      errors ++ refusals records answers, (s.recordAll now records).2) := by
  induction records generalizing report errors s with
  | nil => simp [addRecords, Recorder.recordAll, refusals, warningsIn]
  | cons r rest ih =>
    simp only [addRecords, Recorder.recordAll, addRecord]
    cases answered : s.record now r with
    | mk answer t =>
      cases answer with
      | ok warnings =>
        simp [ih, refusals_cons, refusal?, warningsIn, List.countP_cons, isTaken]
        omega
      | error e => simp [ih, refusals_cons, refusal?, warningsIn, isTaken]

theorem taken_add_refusals {records : List Record} {answers : List Answer}
    (each : answers.length = records.length) :
    answers.countP isTaken + (refusals records answers).length = records.length := by
  induction records generalizing answers with
  | nil => simp_all [refusals]
  | cons r rest ih =>
    cases answers with
    | nil => cases each
    | cons answer more =>
      have later := ih (Nat.succ.inj each)
      cases answer with
      | ok warnings =>
        simp [refusals_cons, refusal?, List.countP_cons, isTaken]
        omega
      | error e =>
        simp [refusals_cons, refusal?, isTaken]
        omega

theorem collectInto_eq (now : Instant) (report : TaskReport) (a : Arrival) (errors : List String)
    (s : Recorder) :
    collectInto now report a errors s =
      let answers := (s.recordAll now a.records).1
      (reported report a answers, errors ++ refusals a.records answers,
          (s.recordAll now a.records).2) := by
  unfold collectInto
  cases ending : a.ending with
  | panicked payload =>
    simp [Arrival.records, Arrival.failures, Arrival.panic?, ending, Recorder.recordAll, reported,
      refusals, warningsIn]
  | returned output =>
    simp [Arrival.records, Arrival.failures, Arrival.panic?, ending, foldl_addError,
      addRecords_eq, reported]

theorem collect_eq {now : Instant} {p : Progress} {a : Arrival} {slot : Slot}
    (known : p.slots[a.index]? = some slot) :
    collect now p a =
      let answers := (p.recorder.recordAll now a.records).1
      ⟨p.slots.set a.index ⟨reported slot.report a answers, true⟩,
        p.errors ++ refusals a.records answers,
        (p.recorder.recordAll now a.records).2⟩ := by
  simp only [collect, known, collectInto_eq]

theorem collect_of_unknown {now : Instant} {p : Progress} {a : Arrival}
    (unknown : p.slots[a.index]? = none) :
    collect now p a = p := by
  simp only [collect, unknown]

theorem collect_other (now : Instant) (p : Progress) {a : Arrival} {i : Nat} (other : a.index ≠ i) :
    (collect now p a).slots[i]? = p.slots[i]? := by
  cases known : p.slots[a.index]? with
  | none => rw [collect_of_unknown known]
  | some slot => rw [collect_eq known, List.getElem?_set_ne other]

theorem collect_names (now : Instant) (p : Progress) (a : Arrival) :
    (collect now p a).slots.map (·.report.name) = p.slots.map (·.report.name) := by
  cases known : p.slots[a.index]? with
  | none => rw [collect_of_unknown known]
  | some slot =>
    have name : (p.slots.map (·.report.name))[a.index]? =
        some (reported slot.report a (p.recorder.recordAll now a.records).1).name := by
      rw [List.getElem?_map, known]
      rfl
    obtain ⟨inside, here⟩ := List.getElem?_eq_some_iff.mp name
    rw [collect_eq known, List.map_set]
    dsimp only
    rw [← here, List.set_getElem_self]

def collectAll (now : Instant) (p : Progress) (arrivals : List Arrival) : Progress :=
  arrivals.foldl (collect now) p

theorem collectAll_append (now : Instant) (p : Progress) (before after : List Arrival) :
    collectAll now p (before ++ after) = collectAll now (collectAll now p before) after :=
  List.foldl_append

theorem collectAll_names (now : Instant) (p : Progress) (arrivals : List Arrival) :
    (collectAll now p arrivals).slots.map (·.report.name) = p.slots.map (·.report.name) := by
  induction arrivals generalizing p with
  | nil => rfl
  | cons a rest ih => exact (ih (collect now p a)).trans (collect_names now p a)

theorem collectAll_length (now : Instant) (p : Progress) (arrivals : List Arrival) :
    (collectAll now p arrivals).slots.length = p.slots.length := by
  have names := congrArg List.length (collectAll_names now p arrivals)
  simpa using names

theorem collectAll_other (now : Instant) (p : Progress) {arrivals : List Arrival} {i : Nat}
    (other : i ∉ arrivals.map (·.index)) : (collectAll now p arrivals).slots[i]? = p.slots[i]? := by
  induction arrivals generalizing p with
  | nil => rfl
  | cons a rest ih =>
    rw [List.map_cons, List.mem_cons, not_or] at other
    exact (ih (collect now p a) other.2).trans (collect_other now p (Ne.symm other.1))

theorem collectAll_recorder (now : Instant) (p : Progress) {arrivals : List Arrival}
    (known : ∀ a ∈ arrivals, a.index < p.slots.length) :
    (collectAll now p arrivals).recorder =
    (p.recorder.recordAll now (arrivals.flatMap Arrival.records)).2 := by
  induction arrivals generalizing p with
  | nil => rfl
  | cons a rest ih =>
    obtain ⟨first, later⟩ := List.forall_mem_cons.mp known
    have size : (collect now p a).slots.length = p.slots.length := collectAll_length now p [a]
    have here : (collect now p a).recorder = (p.recorder.recordAll now a.records).2 := by
      rw [collect_eq (List.getElem?_eq_getElem first)]
    rw [List.flatMap_cons, Recorder.recordAll_append, ← here]
    exact ih (collect now p a) (by rw [size]; exact later)

theorem collectAll_self (now : Instant) (p : Progress) {before after : List Arrival}
    {a : Arrival} {slot : Slot} (known : p.slots[a.index]? = some slot)
    (once : ((before ++ a :: after).map (·.index)).Nodup) :
    (collectAll now p (before ++ a :: after)).slots[a.index]? =
      some ⟨reported slot.report a ((collectAll now p before).recorder.recordAll now a.records).1,
        true⟩ := by
  rw [List.map_append, List.map_cons, List.nodup_append] at once
  obtain ⟨_, apart, disjoint⟩ := once
  have fresh : (collectAll now p before).slots[a.index]? = some slot := by
    rw [collectAll_other now p fun earlier => disjoint _ earlier _ List.mem_cons_self rfl]
    exact known
  obtain ⟨inside, _⟩ := List.getElem?_eq_some_iff.mp fresh
  rw [collectAll_append]
  change (collectAll now (collect now (collectAll now p before) a) after).slots[a.index]? = _
  rw [collectAll_other now _ (List.nodup_cons.mp apart).1, collect_eq fresh,
    List.getElem?_set_self inside]

end Run

end ClusterSurvey
