import ClusterSurvey.Proofs.Recording.Archive
import Mathlib.Logic.Function.Iterate

/-!
The writing of an archive, one step at a time: the file is created, each record is looked at, the
archive is closed, and a file that could not be completed is removed. Others may look at the
directory between any two steps. Without anything between them the steps are the writing of the
archive as a whole.
-/
namespace ClusterSurvey.Recording

inductive Writing where
  | ready
  /-- The file is there and these records are left, the first of them with this number. -/
  | under (i : Nat) (rest : List Kept)
  | failed (e : GatherError)
  /-- A file that could not be completed could not be removed. -/
  | abandoned (e : GatherError)
  | ended (result : Except GatherError Bool)

def Writing.result? : Writing → Option (Except GatherError Bool)
  | abandoned e => some (.error e)
  | ended result => some result
  | _ => none

structure Draft where
  name : String
  snapshot : List Kept
  w : Circumstances
  now : Instant

namespace Draft

def stepIn (t : Draft) (d : Directory) : Writing → Writing × Directory
  | .ready =>
    if (d.get? t.name).isSome then (.ended (.ok false), d)
    else match t.w.creationFailure with
      | some text => (.ended (.error (uncreated text)), d)
      | none => (.under 0 t.snapshot, d.set t.name (.file (.unfinished []) t.now))
  | .under _ [] =>
    match t.w.closingFailure with
    | some (layer, text) =>
        (.failed (.recorder ("unable to close " ++ layer.text ++ ": " ++ text)), d)
    | none => (.ended (.ok true), d.finish t.name)
  | .under i (k :: rest) =>
    if t.w.cancelled i then (.failed .cancelled, d)
    else match k.data with
      | none => (.under (i + 1) rest, d)
      | some data =>
        match nextEntry t.w i k data with
        | .error e => (.failed e, d)
        | .ok entry => (.under (i + 1) rest, d.addEntry t.name entry)
  | .failed e => if t.w.removable then (.ended (.error e), d.remove t.name) else (.abandoned e, d)
  | s => (s, d)

def step (t : Draft) : Writing × Option Directory → Writing × Option Directory
  | (s, some d) => ((t.stepIn d s).1, some (t.stepIn d s).2)
  | (.ready, none) => (.ended (.error (uncreated missingText)), none)
  | (s, none) => (s, none)

theorem steps_writeEntries (t : Draft) (i : Nat) (rest : List Kept) (d : Directory) :
    ∃ n, t.step^[n] (.under i rest, some d) =
      match writeEntries t.w t.name i rest d with
      | (.ok _, d') => (.ended (.ok true), some d')
      | (.error e, d') => (.failed e, some d') := by
  induction rest generalizing i d with
  | nil =>
    refine ⟨1, ?_⟩
    simp only [Function.iterate_one, step, stepIn, writeEntries]
    cases t.w.closingFailure with
    | none => rfl
    | some failure => rfl
  | cons k rest ih =>
    unfold writeEntries
    by_cases cancelled : t.w.cancelled i = true
    · refine ⟨1, ?_⟩
      simp only [Function.iterate_one, step, stepIn, cancelled, ↓reduceIte]
    · cases present : k.data with
      | none =>
        obtain ⟨n, reached⟩ := ih (i + 1) d
        refine ⟨n + 1, ?_⟩
        simp only [Function.iterate_succ_apply, step, stepIn, cancelled, present,
          Bool.false_eq_true, ↓reduceIte]
        exact reached
      | some data =>
        cases made : nextEntry t.w i k data with
        | error e =>
          refine ⟨1, ?_⟩
          simp only [Function.iterate_one, step, stepIn, cancelled, present, made,
            Bool.false_eq_true, ↓reduceIte]
        | ok entry =>
          obtain ⟨n, reached⟩ := ih (i + 1) (d.addEntry t.name entry)
          refine ⟨n + 1, ?_⟩
          simp only [Function.iterate_succ_apply, step, stepIn, cancelled, present, made,
            Bool.false_eq_true, ↓reduceIte]
          exact reached

/-- The steps come to the end that writing the archive at once comes to, with the same directory. -/
theorem steps_writeArchive (t : Draft) (storage : Option Directory) :
    ∃ n s, t.step^[n] (.ready, storage) =
      (s, (writeArchive t.w t.now t.name t.snapshot storage).2) ∧
      s.result? = some (writeArchive t.w t.now t.name t.snapshot storage).1 := by
  unfold writeArchive
  cases storage with
  | none => exact ⟨1, _, rfl, rfl⟩
  | some d =>
    by_cases taken : (d.get? t.name).isSome = true
    · refine ⟨1, .ended (.ok false), ?_, ?_⟩
      · simp only [Function.iterate_one, step, stepIn, taken, ↓reduceIte]
      · simp only [taken, ↓reduceIte, Writing.result?]
    · cases created : t.w.creationFailure with
      | some text =>
        refine ⟨1, .ended (.error (uncreated text)), ?_, ?_⟩
        · simp only [Function.iterate_one, step, stepIn, taken, created,
            Bool.false_eq_true, ↓reduceIte]
        · simp only [taken, Bool.false_eq_true, ↓reduceIte, Writing.result?]
      | none =>
        obtain ⟨n, reached⟩ :=
          t.steps_writeEntries 0 t.snapshot (d.set t.name (.file (.unfinished []) t.now))
        have first : t.step (.ready, some d) =
            (.under 0 t.snapshot, some (d.set t.name (.file (.unfinished []) t.now))) := by
          simp only [step, stepIn, taken, created, Bool.false_eq_true, ↓reduceIte]
        simp only [taken, Bool.false_eq_true, ↓reduceIte]
        cases outcome : writeEntries t.w t.name 0 t.snapshot
          (d.set t.name (.file (.unfinished []) t.now)) with
        | mk result d' =>
          rw [outcome] at reached
          cases result with
          | ok done =>
            refine ⟨n + 1, .ended (.ok true), ?_, rfl⟩
            rw [Function.iterate_succ_apply, first, reached]
          | error e =>
            have last : t.step^[n + 2] (.ready, some d) = t.step (.failed e, some d') := by
              rw [Function.iterate_succ_apply', Function.iterate_succ_apply, first, reached]
            refine ⟨n + 2, _, last.trans (Prod.ext rfl ?_), ?_⟩
            · simp only [step, stepIn]
              split <;> rfl
            · simp only [step, stepIn]
              split <;> rfl

end Draft

end ClusterSurvey.Recording
