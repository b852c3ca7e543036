import ClusterSurvey.Proofs.Run.Accounting

/-!
The reports of a run, place by place. What the tasks handed in is put together with the answers that
the recorder gave at that point; the report at a place of the selection is told from what was heard
from that place, or it says that nothing was.
-/
namespace ClusterSurvey.Run
open Recording (Recorder)

variable {ρ : Type}

abbrev Hearing : Type := List (Arrival × List Answer)

def heard (now : Instant) : List Arrival → Recorder → Hearing
  | [], _ => []
  | a :: rest, s =>
    let (answers, s) := s.recordAll now a.records
    (a, answers) :: heard now rest s

def Hearing.from? (h : Hearing) (i : Nat) : Option (Arrival × List Answer) :=
  h.find? fun p => p.1.index = i

theorem heard_arrivals (now : Instant) (arrivals : List Arrival) (s : Recorder) :
    (heard now arrivals s).map Prod.fst = arrivals := by
  induction arrivals generalizing s with
  | nil => rfl
  | cons a rest ih => exact congrArg (a :: ·) (ih _)

theorem arrival_of_heard {now : Instant} {arrivals : List Arrival} {s : Recorder}
    {p : Arrival × List Answer} (member : p ∈ heard now arrivals s) : p.1 ∈ arrivals := by
  rw [← heard_arrivals now arrivals s]
  exact List.mem_map_of_mem member

theorem heard_answers {now : Instant} {arrivals : List Arrival} {s : Recorder}
    {p : Arrival × List Answer} (member : p ∈ heard now arrivals s) :
    p.2.length = p.1.records.length := by
  induction arrivals generalizing s with
  | nil => cases member
  | cons a rest ih =>
    rcases List.mem_cons.mp member with here | later
    · rw [here]
      exact Recorder.recordAll_length _ _ _
    · exact ih later

theorem from?_eq_none {now : Instant} {arrivals : List Arrival} {i : Nat}
    (missing : i ∉ arrivals.map (·.index)) (s : Recorder) :
    (heard now arrivals s).from? i = none := by
  refine List.find?_eq_none.mpr fun p member same => ?_
  exact missing (of_decide_eq_true same ▸ List.mem_map_of_mem (arrival_of_heard member))

theorem from?_eq_some_iff {now : Instant} {arrivals : List Arrival}
    (once : (arrivals.map (·.index)).Nodup) {s : Recorder} {i : Nat} {p : Arrival × List Answer} :
    (heard now arrivals s).from? i = some p ↔ p ∈ heard now arrivals s ∧ p.1.index = i := by
  have apart : ((heard now arrivals s).map fun p => p.1.index).Nodup := by
    have places := congrArg (List.map (·.index)) (heard_arrivals now arrivals s)
    rw [List.map_map] at places
    exact places ▸ once
  exact Keyed.find?_key_eq_some_iff apart

def Slot.after (s : Slot) : Option (Arrival × List Answer) → Slot
  | some (a, answers) => ⟨reported s.report a answers, true⟩
  | none => s

theorem collectAll_cons (now : Instant) (p : Progress) (a : Arrival) (rest : List Arrival) :
    collectAll now p (a :: rest) = collectAll now (collect now p a) rest := rfl

theorem collect_length (now : Instant) (p : Progress) (a : Arrival) :
    (collect now p a).slots.length = p.slots.length := collectAll_length now p [a]

theorem collectAll_slots (now : Instant) {p : Progress} {arrivals : List Arrival}
    (once : (arrivals.map (·.index)).Nodup)
    (known : ∀ a ∈ arrivals, a.index < p.slots.length) (i : Nat) :
    (collectAll now p arrivals).slots[i]? =
      p.slots[i]?.map fun s => s.after ((heard now arrivals p.recorder).from? i) := by
  induction arrivals generalizing p with
  | nil => simp [collectAll, heard, Hearing.from?, Slot.after]
  | cons a rest ih =>
    obtain ⟨fresh, apart⟩ := List.nodup_cons.mp once
    obtain ⟨first, later⟩ := List.forall_mem_cons.mp known
    have step : collect now p a = _ := collect_eq (List.getElem?_eq_getElem first)
    have recorder : (collect now p a).recorder =
        (p.recorder.recordAll now a.records).2 := by rw [step]
    rw [collectAll_cons, ih apart (by rw [collect_length]; exact later), recorder]
    simp only [heard, Hearing.from?, List.find?_cons]
    by_cases same : a.index = i
    · -- The task at this place hands in now, so nothing more is heard from it.
      subst same
      have silent : (heard now rest (p.recorder.recordAll now a.records).2).from? a.index = none :=
        from?_eq_none fresh _
      rw [Hearing.from?] at silent
      rw [silent, step]
      simp [Slot.after, first]
    · rw [collect_other now p same]
      simp [same]

/-- The report at a place of the selection, given what was heard. -/
def reportAt (clock : Clock) (h : Hearing) (t : ClusterSurvey.Task ρ) (i : Nat) : TaskReport :=
  Slot.close clock.endedAt (Slot.after ⟨.start clock.startedAt t, false⟩ (h.from? i))

def reportsBy (clock : Clock) (selected : List (ClusterSurvey.Task ρ)) (h : Hearing) :
    List TaskReport :=
  selected.zipIdx.map fun p => reportAt clock h p.1 p.2

theorem closed_slots {selection : Registry.Selection ρ} {arrivals : List Arrival}
    (once : (arrivals.map (·.index)).Nodup)
    (known : ∀ a ∈ arrivals, a.index < selection.selected.length) (clock : Clock)
    (recorder : Recorder) :
    (progressAt selection arrivals clock recorder).slots.map (Slot.close clock.endedAt) =
      reportsBy clock selection.selected (heard clock.endedAt arrivals recorder) := by
  have length : (startSlots clock.startedAt selection.selected).length =
      selection.selected.length := List.length_map _
  refine List.ext_getElem? fun i => ?_
  rw [List.getElem?_map, progressAt, collectAll_slots _ once (by rw [length]; exact known)]
  simp only [startSlots, reportsBy, reportAt, List.getElem?_map,
    List.getElem?_zipIdx, Option.map_map]
  congr 1
  funext t
  simp

theorem progressAt_errors {selection : Registry.Selection ρ} {arrivals : List Arrival}
    (known : ∀ a ∈ arrivals, a.index < selection.selected.length) (clock : Clock)
    (recorder : Recorder) :
    (progressAt selection arrivals clock recorder).errors =
      selection.unknown.map (fun name => (GatherError.unknownTask name).message) ++
        (heard clock.endedAt arrivals recorder).flatMap fun p => refusals p.1.records p.2 := by
  have run : ∀ (rest : List Arrival) (p : Progress), (∀ a ∈ rest, a.index < p.slots.length) →
      (collectAll clock.endedAt p rest).errors =
        p.errors ++ (heard clock.endedAt rest p.recorder).flatMap fun p =>
          refusals p.1.records p.2 := by
    intro rest
    induction rest with
    | nil => intro p _; simp [collectAll, heard]
    | cons a rest ih =>
      intro p known
      obtain ⟨first, later⟩ := List.forall_mem_cons.mp known
      have step : collect clock.endedAt p a = _ := collect_eq (List.getElem?_eq_getElem first)
      rw [collectAll_cons, ih _ (by rw [collect_length]; exact later), step]
      simp [heard]
  refine run arrivals _ ?_
  rw [startSlots, List.length_map]
  exact known

end ClusterSurvey.Run
