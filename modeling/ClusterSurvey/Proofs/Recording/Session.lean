import ClusterSurvey.Proofs.Recording.Archive
import ClusterSurvey.Proofs.Recording.Buffer
import ClusterSurvey.Recording.Recorder

/-!
A recorder that is shared. Records come in at any time, and any number of flushes are under way,
each in three steps that others may come between: it takes a snapshot, writes it to an archive, and
clears what it wrote. Anyone may also change the directory. A run is a list of such steps; the step
of a flush that is not at that point does nothing. Every reachable buffer is sound, whatever the
order of the steps.
-/
namespace ClusterSurvey.Recording
open Keyed

inductive Phase where
  | taken
  | written
  | ended
  deriving DecidableEq, Repr

structure Flush where
  snapshot : List Kept
  phase : Phase
  deriving DecidableEq, Repr

/-- A recorder, the flushes in the order in which they began, and the entries of the archives that
were completed. An archive that was completed counts even if it is gone from the directory. -/
structure Session where
  recorder : Recorder
  flushes : List Flush
  archives : List (List ArchiveEntry)

inductive Step where
  | record (now : Instant) (r : Record)
  | snapshot
  | write (i : Nat) (w : Circumstances) (now : Instant)
  | clear (i : Nat)
  | outside (storage : Option Directory)

def Recorder.archive? (s : Recorder) (name : String) : Option (List ArchiveEntry) :=
  match s.storage.bind fun d => d.get? name with
  | some (.file (.archive entries) _) => some entries
  | _ => none

theorem Recorder.archive?_set (s : Recorder) (d : Directory) (name : String)
    (entries : List ArchiveEntry) (t : Instant) :
    archive? { s with storage := some (d.set name (.file (.archive entries) t)) } name =
      some entries := by
  simp only [archive?, Option.bind_some, Directory.get?_set_self]

theorem Recorder.write_cases (w : Circumstances) (now : Instant) (snapshot : List Kept)
    (s : Recorder) :
    (∃ result storage, s.write w now snapshot = (result, { s with storage }) ∧
      ∀ name, result ≠ .ok (some name)) ∨
    ∃ (name : String) (d : Directory) (entries : List ArchiveEntry),
      entriesOf w 0 snapshot = .ok entries ∧ s.write w now snapshot =
      (.ok (some name),
        { s with storage := some (d.set name (.file (.archive entries) now)) }) := by
  unfold write
  cases newest? snapshot with
  | none => exact Or.inl ⟨.ok none, s.storage, rfl, by simp⟩
  | some newest =>
    dsimp only
    cases outcome : writeArchive w now (archiveName newest) snapshot s.storage with
    | mk result storage =>
      cases result with
      | error e => exact Or.inl ⟨.error e, storage, rfl, by simp⟩
      | ok done =>
        cases done with
        | false => exact Or.inl ⟨.ok none, storage, rfl, by simp⟩
        | true =>
          obtain ⟨d, entries, _, _, planned, after⟩ := writeArchive_ok outcome
          exact Or.inr ⟨archiveName newest, d, entries, planned, by rw [after]; rfl⟩

theorem filterMap_cons_subset {α β : Type} {f : α → Option β} {a : α} {rest : List α} {all : List β}
    (inside : (a :: rest).filterMap f ⊆ all) :
    (∀ b, f a = some b → b ∈ all) ∧ rest.filterMap f ⊆ all := by
  constructor
  · intro b same
    exact inside (List.mem_filterMap.mpr ⟨a, List.mem_cons_self, same⟩)
  · intro b member
    obtain ⟨c, later, same⟩ := List.mem_filterMap.mp member
    exact inside (List.mem_filterMap.mpr ⟨c, List.mem_cons_of_mem _ later, same⟩)

namespace Session

def start (bounds : Bounds) (interval : Nat) (storage : Option Directory) : Session :=
  ⟨⟨bounds, interval, .empty, storage, false, false⟩, [], []⟩

def buffer (s : Session) : Buffer := s.recorder.buffer

def record (now : Instant) (r : Record) (s : Session) : Session :=
  { s with recorder := (s.recorder.record now r).2 }

def snapshot (s : Session) : Session :=
  { s with flushes := s.flushes ++ [⟨s.buffer.pending, .taken⟩] }

def write (i : Nat) (w : Circumstances) (now : Instant) (s : Session) : Session :=
  match s.flushes[i]? with
  | some ⟨snapshot, .taken⟩ =>
    match s.recorder.write w now snapshot with
    | (.ok (some name), recorder) =>
      ⟨recorder, s.flushes.set i ⟨snapshot, .written⟩,
        s.archives ++ (recorder.archive? name).toList⟩
    | (_, recorder) => ⟨recorder, s.flushes.set i ⟨snapshot, .ended⟩, s.archives⟩
  | _ => s

def clear (i : Nat) (s : Session) : Session :=
  match s.flushes[i]? with
  | some ⟨snapshot, .written⟩ =>
    { s with recorder := s.recorder.clear snapshot, flushes := s.flushes.set i ⟨snapshot, .ended⟩ }
  | _ => s

def step (s : Session) : Step → Session
  | .record now r => s.record now r
  | .snapshot => s.snapshot
  | .write i w now => s.write i w now
  | .clear i => s.clear i
  | .outside storage => { s with recorder := { s.recorder with storage } }

def run (s : Session) (steps : List Step) : Session := steps.foldl step s

theorem buffer_record (now : Instant) (r : Record) (s : Session) :
    (s.record now r).buffer = (s.buffer.record s.recorder.bounds now r).2 := rfl

theorem run_append (s : Session) (before after : List Step) :
    s.run (before ++ after) = (s.run before).run after := List.foldl_append

theorem write_cases (i : Nat) (w : Circumstances) (now : Instant) (s : Session) :
    s.write i w now = s ∨
    ∃ snapshot storage, s.flushes[i]? = some ⟨snapshot, .taken⟩ ∧
      (s.write i w now =
          ⟨{ s.recorder with storage }, s.flushes.set i ⟨snapshot, .ended⟩, s.archives⟩ ∨
        ∃ entries, entriesOf w 0 snapshot = .ok entries ∧ s.write i w now =
          ⟨{ s.recorder with storage }, s.flushes.set i ⟨snapshot, .written⟩,
            s.archives ++ [entries]⟩) := by
  unfold write
  split
  · rename_i snapshot found
    refine Or.inr ?_
    rcases Recorder.write_cases w now snapshot s.recorder with
      ⟨result, storage, outcome, none⟩ | ⟨name, d, entries, planned, outcome⟩
    · refine ⟨snapshot, storage, found, Or.inl ?_⟩
      rw [outcome]
      split
      · rename_i name recorder same
        exact absurd (Prod.mk.inj same).1 (none name)
      · rename_i recorder _ same
        rw [(Prod.mk.inj same).2]
    · refine ⟨snapshot, some (d.set name (.file (.archive entries) now)), found,
        Or.inr ⟨entries, planned, ?_⟩⟩
      rw [outcome]
      simp only [Recorder.archive?_set, Option.toList_some]
  · exact Or.inl rfl

theorem buffer_write (i : Nat) (w : Circumstances) (now : Instant) (s : Session) :
    (s.write i w now).buffer = s.buffer := by
  rcases write_cases i w now s with same | ⟨_, _, _, ended | ⟨_, _, done⟩⟩
  · rw [same]
  · rw [ended]
    rfl
  · rw [done]
    rfl

theorem clear_cases (i : Nat) (s : Session) :
    s.clear i = s ∨ ∃ snapshot, s.flushes[i]? = some ⟨snapshot, .written⟩ ∧ s.clear i =
      { s with recorder := s.recorder.clear snapshot, flushes := s.flushes.set i ⟨snapshot,
        .ended⟩ } := by
  unfold clear
  split
  · rename_i snapshot found
    exact Or.inr ⟨snapshot, found, rfl⟩
  · exact Or.inl rfl

theorem run_flush (s : Session) (w : Circumstances) (now : Instant) :
    (s.run [.snapshot, .write s.flushes.length w now, .clear s.flushes.length]).recorder =
      (s.recorder.flush w now).2 := by
  have found : (s.flushes ++ [⟨s.buffer.pending, .taken⟩])[s.flushes.length]? =
      some ⟨s.buffer.pending, .taken⟩ := List.getElem?_concat_length
  simp only [run, List.foldl_cons, List.foldl_nil, step, snapshot, write, found, Recorder.flush]
  cases outcome : s.recorder.write w now s.buffer.pending with
  | mk result recorder =>
    have outcome' : s.recorder.write w now s.recorder.buffer.pending = (result, recorder) := outcome
    rw [outcome']
    cases result with
    | error e => simp [clear]
    | ok name? =>
      cases name? with
      | none => simp [clear]
      | some name => simp [clear, buffer]

theorem step_sound {s : Session} (sound : s.buffer.Sound) (e : Step) : (s.step e).buffer.Sound := by
  cases e with
  | record now r => exact Buffer.record_sound sound s.recorder.bounds now r
  | snapshot => exact sound
  | write i w now => exact (buffer_write i w now s).symm ▸ sound
  | clear i =>
    rcases clear_cases i s with same | ⟨snapshot, _, cleared⟩
    · exact (congrArg buffer same) ▸ sound
    · exact (congrArg buffer cleared) ▸ Buffer.clear_sound sound snapshot
  | outside storage => exact sound

theorem run_sound {s : Session} (sound : s.buffer.Sound) (steps : List Step) :
    (s.run steps).buffer.Sound := by
  induction steps generalizing s with
  | nil => exact sound
  | cons e rest ih => exact ih (step_sound sound e)

theorem reachable_sound (bounds : Bounds) (interval : Nat) (storage : Option Directory)
    (steps : List Step) :
    ((start bounds interval storage).run steps).buffer.Sound :=
  run_sound (s := start bounds interval storage) Buffer.empty_sound steps

/-- In every state that a run can reach the size is that of the bytes that are there, each record
stands once and under its own file name, a new record takes no more from the size than is in it, and
neither does any clearing. What was cleared once frees nothing when it is cleared again. -/
theorem size_exact_in_every_run (bounds : Bounds) (interval : Nat) (storage : Option Directory)
    (steps : List Step) :
    let b := ((start bounds interval storage).run steps).buffer
    b.size = ((b.kept.filterMap fun p => p.2.data).map List.length).sum ∧
    (b.kept.map fun p => p.1).Nodup ∧
    (∀ p ∈ b.kept, p.1 = p.2.fileName) ∧
    (∀ fileName, b.replacedSize fileName ≤ b.size) ∧
    (∀ written, (Buffer.clearAll written b.kept).2 ≤ b.size) ∧
    (∀ first second, second ⊆ first → (Buffer.clearAll second (b.clear first).kept).2 = 0) := by
  intro b
  have sound : b.Sound := reachable_sound bounds interval storage steps
  refine ⟨Buffer.size_eq sound, nodup_keys sound.ascending, sound.named,
    Buffer.replacedSize_le sound,
    Buffer.freed_le sound, ?_⟩
  intro first second sub
  exact Buffer.clearAll_freed_twice sound.ascending sub

end Session

end ClusterSurvey.Recording
