import ClusterSurvey.Proofs.Recording.Flush
import ClusterSurvey.Proofs.Recording.Loop

/-!
What the loop of flushes leaves behind when it returns. A record that was accepted waits with its
bytes until it is in an archive or replaced, since clearing drops only captures that were written.
The last flush begins after the cancellation and does not heed it, so its snapshot has all that
still waits. It can yet end without an archive, if something stands under the name already; and a
capture that was written stands for every other one of the same file name, time and fingerprint.
-/
namespace ClusterSurvey.Recording
open Keyed

/-- What is kept of a record that is accepted, if it has bytes. -/
def captureOf (now : Instant) (r : Record) : Option Kept :=
  match r.marshal with
  | .ok (data, fingerprint) => some ⟨r.fileName, fingerprint, r.capturedAt.getD now, some data⟩
  | .error _ => none

def Event.capture? : Event → Option Kept
  | .enter now r => captureOf now r
  | _ => none

def capturesOf (events : List Event) : List Kept := events.filterMap Event.capture?

/-- One file name, time and fingerprint stands for the same bytes in all captures. -/
def OneContent (captures : List Kept) : Prop :=
  ∀ a ∈ captures, ∀ b ∈ captures, a.fileName = b.fileName → a.sameCapture b = true → a.data = b.data

theorem OneContent.eq {captures : List Kept} (one : OneContent captures) {a b : Kept}
    (insideA : a ∈ captures) (insideB : b ∈ captures) (named : a.fileName = b.fileName)
    (same : a.sameCapture b = true) : a = b := by
  have data := one a insideA b insideB named same
  simp only [Kept.sameCapture, Bool.and_eq_true, decide_eq_true_eq] at same
  obtain ⟨captured, marked⟩ := same
  cases a
  cases b
  simp_all

theorem Buffer.record_capture (bounds : Bounds) (now : Instant) (r : Record) (b : Buffer) :
    ((b.record bounds now r).1.isAccepted = false ∧ (b.record bounds now r).2.kept = b.kept) ∨
      ∃ k, captureOf now r = some k ∧ k.fileName = r.fileName ∧ k.isPending = true ∧
        (b.record bounds now r).1.isAccepted = true ∧
        (b.record bounds now r).2.kept = insert r.fileName k b.kept := by
  rcases record_cases bounds now r b with ⟨refused, same⟩ |
    ⟨data, fingerprint, marshalled, accepted, _, taken⟩
  · exact Or.inl ⟨refused, congrArg kept same⟩
  · refine Or.inr ⟨⟨r.fileName, fingerprint, r.capturedAt.getD now, some data⟩, ?_, rfl,
      rfl, accepted, ?_⟩
    · rw [captureOf, marshalled]
    · rw [taken]

/-- A flush had something to write and did not fail, and yet there is no archive. -/
def Conclusion.FoundNameTaken (c : Conclusion) : Prop := c.snapshot ≠ [] ∧ c.result = .ok none

/-- A snapshot that is left unwritten without a failure has the name of its archive taken. -/
theorem Recorder.taken_of_write {w : Circumstances} {now : Instant}
    {snapshot : List Kept} {s : Recorder} (filled : snapshot ≠ [])
    (unwritten : (s.write w now snapshot).1 = .ok none) :
    ∃ newest, IsNewest newest snapshot ∧ s.Taken (archiveName newest) := by
  unfold write at unwritten
  cases found : newest? snapshot with
  | none =>
    cases snapshot with
    | nil => exact absurd rfl filled
    | cons k rest => cases found
  | some newest =>
    refine ⟨newest, newest?_eq_some_iff.mp found, ?_⟩
    rw [found] at unwritten
    dsimp only at unwritten
    by_contra free
    cases there : s.storage with
    | none =>
      rw [there] at unwritten
      cases unwritten
    | some d =>
      have untaken := free_of_untaken free there
      cases created : w.creationFailure with
      | some text => simp [writeArchive, there, untaken, created, Except.map] at unwritten
      | none =>
        obtain ⟨left, outcome⟩ := writeArchive_free untaken created now snapshot
        rw [there, outcome] at unwritten
        cases planned : entriesOf w 0 snapshot with
        | error e => simp [planned, Except.map] at unwritten
        | ok entries => simp [planned, Except.map] at unwritten

namespace Loop

def accepts (l : Loop) (now : Instant) (r : Record) : Bool :=
  (l.buffer.record l.recorder.bounds now r).1.isAccepted

def Waits (l : Loop) (k : Kept) : Prop := l.buffer.get? k.fileName = some k

def Archived (l : Loop) (k : Kept) : Prop := ∃ entries ∈ l.archives, ∃ e ∈ entries, StandsFor e k

def Replaced (l : Loop) (events : List Event) (fileName : String) : Prop :=
  ∃ before now r after, events = before ++ .enter now r :: after ∧ r.fileName = fileName ∧
    (l.run before).accepts now r = true

theorem Archived.more {l l' : Loop} {k : Kept} (archived : l.Archived k)
    (sub : l.archives ⊆ l'.archives) :
    l'.Archived k := by
  obtain ⟨entries, inside, e, here, stands⟩ := archived
  exact ⟨entries, sub inside, e, here, stands⟩

def held : Stage → List Kept
  | .taken _ snapshot | .written _ snapshot _ => snapshot
  | _ => []

def isLast : Stage → Bool
  | .begun .ending _ | .taken .ending _ | .written .ending _ _ | .returned => true
  | _ => false

/-- Whether the last snapshot was taken. -/
def isLate : Stage → Bool
  | .taken .ending _ | .written .ending _ _ | .returned => true
  | _ => false

theorem next_round_early (left : List Nat) (result : Except GatherError (Option String)) :
    isLast ((Purpose.round left).next result) = false ∧
      isLate ((Purpose.round left).next result) = false := by
  cases result <;> cases left <;> exact ⟨rfl, rfl⟩

theorem held_next (p : Purpose) (result : Except GatherError (Option String)) :
    held (p.next result) = [] := by
  cases p with
  | ending => rfl
  | round left => cases result <;> cases left <;> rfl

/-- What holds bytes is a capture of the run, what was written is in an archive, and the last flush
begins only when the run is cancelled. -/
structure Traced (captures : List Kept) (l : Loop) : Prop where
  sound : l.buffer.Sound
  kept : ∀ p ∈ l.buffer.kept, p.2.isPending = true → p.2 ∈ captures
  snapshot : ∀ k ∈ held l.stage, k.isPending = true ∧ k ∈ captures
  written : ∀ {p snapshot name}, l.stage = .written p snapshot name → ∀ k ∈ snapshot, l.Archived k
  last : isLast l.stage = true → l.cancelled = true

theorem start_traced (captures : List Kept) (bounds : Bounds) (interval : Nat)
    (storage : Option Directory) :
    (start bounds interval storage).Traced captures where
  sound := Buffer.empty_sound
  kept := by simp [start, buffer, Buffer.empty]
  snapshot := by simp [start, held]
  written := by simp [start]
  last := by simp [start, isLast]

theorem Traced.keep {captures : List Kept} {l l' : Loop} (traced : l.Traced captures)
    (buffer : l'.buffer = l.buffer) (archives : l'.archives = l.archives)
    (stage : l'.stage = l.stage ∨ held l'.stage = [])
    (last : isLast l'.stage = true → l'.cancelled = true) : l'.Traced captures := by
  refine ⟨buffer ▸ traced.sound, buffer ▸ traced.kept, ?_, ?_, last⟩
  · rcases stage with same | nothing
    · exact same ▸ traced.snapshot
    · simp [nothing]
  · intro p snapshot name here k inside
    rcases stage with same | nothing
    · exact (traced.written (same ▸ here) k inside).more (archives ▸ List.Subset.refl _)
    · rw [here] at nothing
      exact absurd inside (List.eq_nil_iff_forall_not_mem.mp nothing k)

theorem enter_traced {captures : List Kept} {l : Loop} (traced : l.Traced captures)
    {now : Instant} {r : Record} (inside : ∀ k, captureOf now r = some k → k ∈ captures) :
    (l.enter now r).Traced captures := by
  refine ⟨Buffer.record_sound traced.sound _ now r, ?_, traced.snapshot,
    traced.written, traced.last⟩
  intro p member pending
  have member' : p ∈ (l.buffer.record l.recorder.bounds now r).2.kept := member
  rcases Buffer.record_capture l.recorder.bounds now r l.buffer with ⟨_, same⟩ |
    ⟨k, captured, _, _, _, taken⟩
  · rw [same] at member'
    exact traced.kept p member' pending
  · rw [taken] at member'
    rcases mem_insert member' with fresh | old
    · rw [fresh]
      exact inside k captured
    · exact traced.kept p old pending

theorem snapshot_traced {captures : List Kept} {l : Loop} (traced : l.Traced captures)
    {p : Purpose} {heard : Bool} (here : l.stage = .begun p heard) :
    Traced captures { l with
      stage := .taken p l.buffer.pending, snapshots := l.snapshots + 1 } := by
  refine ⟨traced.sound, traced.kept, ?_, nofun, ?_⟩
  · intro k member
    obtain ⟨stands, pending⟩ := List.mem_filter.mp member
    obtain ⟨q, inside, rfl⟩ := List.mem_map.mp stands
    exact ⟨pending, traced.kept q inside pending⟩
  · intro last
    apply traced.last
    rw [here]
    cases p with
    | ending => rfl
    | round left => cases last

theorem written_traced {captures : List Kept} {l : Loop} (traced : l.Traced captures) {p : Purpose}
    {snapshot : List Kept} (here : l.stage = .taken p snapshot) {w : Circumstances}
    {entries : List ArchiveEntry} (planned : entriesOf w 0 snapshot = .ok entries)
    (storage : Option Directory) (name : String) :
    Traced captures { l with
      recorder := { l.recorder with storage }
      stage := .written p snapshot name
      archives := l.archives ++ [entries] } := by
  have before := traced.snapshot
  rw [here] at before
  refine ⟨traced.sound, traced.kept, before, ?_, ?_⟩
  · intro q other name' same k member
    cases same
    obtain ⟨e, inside, stands⟩ := exists_entry planned member (before k member).1
    exact ⟨entries, by simp, e, inside, stands⟩
  · intro last
    apply traced.last
    rw [here]
    cases p with
    | ending => rfl
    | round left => cases last

theorem clear_traced {captures : List Kept} {l : Loop} (traced : l.Traced captures) {p : Purpose}
    {snapshot : List Kept} {name : String} (here : l.stage = .written p snapshot name) :
    Traced captures (conclude p snapshot
      (.ok (some name)) { l with recorder := l.recorder.clear snapshot }) := by
  refine ⟨Buffer.clear_sound traced.sound snapshot, ?_, ?_, ?_, ?_⟩
  · intro q member pending
    have kept : (l.buffer.clear snapshot).kept =
        mapValues (Buffer.cleared snapshot) l.buffer.kept :=
      Buffer.clearAll_kept traced.sound.ascending snapshot
    have member' : q ∈ (l.buffer.clear snapshot).kept := member
    rw [kept] at member'
    obtain ⟨o, inside, rfl⟩ := List.mem_map.mp member'
    unfold Buffer.cleared at pending ⊢
    split at pending
    · cases pending
    · rename_i uncovered
      rw [if_neg uncovered]
      exact traced.kept o inside pending
  · simp [conclude, held_next]
  · intro q other name' same k inside
    have nothing : held (p.next (.ok (some name))) = [] := held_next p _
    have after : p.next (.ok (some name)) = .written q other name' := same
    rw [after] at nothing
    exact absurd inside (List.eq_nil_iff_forall_not_mem.mp nothing k)
  · intro last
    apply traced.last
    rw [here]
    cases p with
    | ending => rfl
    | round left =>
      rw [conclude, (next_round_early left _).1] at last
      cases last

theorem change_traced {captures : List Kept} {l l' : Loop} {e : Event} (traced : l.Traced captures)
    (inside : ∀ k, e.capture? = some k → k ∈ captures) (change : l.Change e l') :
    l'.Traced captures := by
  cases change with
  | enter now r => exact enter_traced traced inside
  | finish =>
    refine traced.keep ?_ rfl (Or.inl rfl) traced.last
    simp only [buffer]
    split <;> rfl
  | cancel => exact traced.keep rfl rfl (Or.inl rfl) fun _ => rfl
  | tick => exact traced.keep rfl rfl (Or.inr rfl) fun last => by cases last
  | hear => exact traced.keep rfl rfl (Or.inr rfl) fun last => by cases last
  | snapshot here => exact snapshot_traced traced here
  | @unwritten p snapshot here =>
    refine traced.keep rfl rfl (Or.inr (held_next p _)) ?_
    intro last
    cases p with
    | ending =>
      have cancelled := traced.last (by rw [here]; rfl)
      simp [conclude, cancelled]
    | round left =>
      rw [conclude, (next_round_early left _).1] at last
      cases last
  | written here planned now storage name => exact written_traced traced here planned storage name
  | clear here => exact clear_traced traced here
  | wake => exact traced.keep rfl rfl (Or.inr rfl) fun last => by cases last
  | giveUp => exact traced.keep rfl rfl (Or.inr rfl) fun last => by cases last
  | leave here cancelled => exact traced.keep rfl rfl (Or.inr rfl) fun _ => cancelled
  | outside storage => exact traced.keep rfl rfl (Or.inl rfl) traced.last

theorem change_conclusions {l l' : Loop} {e : Event} (change : l.Change e l') :
    l.conclusions ⊆ l'.conclusions := by
  cases change with
  | unwritten => exact List.subset_append_left _ _
  | clear => exact List.subset_append_left _ _
  | _ => exact List.Subset.refl _

/-- A capture is in an archive, or it waits and the last snapshot is still to come, or it is in the
last snapshot. -/
def Covered (l : Loop) (k : Kept) : Prop :=
  l.Archived k ∨ (isLate l.stage = false ∧ l.Waits k) ∨
    ∃ snapshot, l.stage = .taken .ending snapshot ∧ k ∈ snapshot

theorem Covered.keep {l l' : Loop} {k : Kept} (covered : l.Covered k)
    (buffer : l'.buffer = l.buffer) (archives : l'.archives = l.archives)
    (stage : l'.stage = l.stage ∨ isLate l'.stage = false ∧ isLate l.stage = false) :
    l'.Covered k := by
  rcases covered with archived | ⟨early, waits⟩ | ⟨snapshot, here, member⟩
  · exact Or.inl (archived.more (archives ▸ List.Subset.refl _))
  · right; left
    constructor
    · rcases stage with same | ⟨early', _⟩
      · rw [same]
        exact early
      · exact early'
    · unfold Waits
      rw [buffer]
      exact waits
  · rcases stage with same | ⟨_, early⟩
    · exact Or.inr (Or.inr ⟨snapshot, same.trans here, member⟩)
    · rw [here] at early
      cases early

/-- How the last flush has to end for its snapshot to be in an archive. -/
def LastFlushWrites (conclusions : List Conclusion) : Prop :=
  ∀ c ∈ conclusions, c.purpose = .ending → (∀ e, c.result = .error e → e = .cancelled) ∧
    ¬ c.FoundNameTaken

theorem enter_covered {l : Loop} {k : Kept} (covered : l.Covered k) (now : Instant) (r : Record) :
    (l.enter now r).Covered k ∨ r.fileName = k.fileName ∧ l.accepts now r = true := by
  rcases covered with archived | ⟨early, waits⟩ | last
  · exact Or.inl (Or.inl archived)
  · by_cases replaced : r.fileName = k.fileName ∧ l.accepts now r = true
    · exact Or.inr replaced
    · left; right; left
      refine ⟨early, ?_⟩
      have after : (l.enter now r).buffer.get? k.fileName =
          (l.buffer.record l.recorder.bounds now r).2.kept.lookup k.fileName := rfl
      unfold Waits
      rw [after]
      rcases Buffer.record_capture l.recorder.bounds now r l.buffer with ⟨_, same⟩ |
        ⟨_, _, _, _, accepted, taken⟩
      · rw [same]
        exact waits
      · rw [taken, lookup_insert_of_ne fun named => replaced ⟨named.symm, accepted⟩]
        exact waits
  · exact Or.inl (Or.inr (Or.inr last))

theorem clear_covered {captures : List Kept} (one : OneContent captures) {l : Loop}
    (traced : l.Traced captures) {k : Kept} (known : k ∈ captures) (covered : l.Covered k)
    {p : Purpose} {snapshot : List Kept} {name : String}
    (here : l.stage = .written p snapshot name) :
    Covered (conclude p snapshot (.ok (some name)) { l with recorder := l.recorder.clear snapshot })
      k := by
  rcases covered with archived | ⟨early, waits⟩ | ⟨other, last, _⟩
  · exact Or.inl archived
  · by_cases hit : Buffer.covers snapshot k.fileName k = true
    · obtain ⟨w, inside, named, same⟩ := Buffer.covers_iff.mp hit
      have isHeld : w ∈ held l.stage := by
        rw [here]
        exact inside
      have equal : k = w := one.eq known (traced.snapshot w isHeld).2 named.symm same
      left
      rw [equal]
      exact traced.written here w inside
    · right; left
      constructor
      · rw [here] at early
        cases p with
        | ending => cases early
        | round left => exact (next_round_early left _).2
      · have after := Buffer.get?_clear traced.sound snapshot k.fileName
        have stands : l.buffer.get? k.fileName = some k := waits
        rw [stands, Option.map_some, Buffer.cleared, if_neg hit] at after
        exact after
  · rw [here] at last
    cases last

theorem snapshot_covered {captures : List Kept} {l : Loop} (traced : l.Traced captures) {k : Kept}
    (pending : k.isPending = true) (covered : l.Covered k) {p : Purpose} {heard : Bool}
    (here : l.stage = .begun p heard) :
    Covered { l with stage := .taken p l.buffer.pending, snapshots := l.snapshots + 1 } k := by
  rcases covered with archived | ⟨_, waits⟩ | ⟨other, last, _⟩
  · exact Or.inl archived
  · cases p with
    | ending =>
      exact Or.inr (Or.inr ⟨_, rfl, (Buffer.mem_pending_iff traced.sound).mpr ⟨waits, pending⟩⟩)
    | round left => exact Or.inr (Or.inl ⟨rfl, waits⟩)
  · rw [here] at last
    cases last

theorem written_covered {l : Loop} {k : Kept} (pending : k.isPending = true) (covered : l.Covered k)
    {p : Purpose} {snapshot : List Kept} (here : l.stage = .taken p snapshot) {w : Circumstances}
    {entries : List ArchiveEntry}
    (planned : entriesOf (p.heeded l.cancelled w) 0 snapshot = .ok entries)
    (storage : Option Directory) (name : String) :
    Covered { l with
      recorder := { l.recorder with storage }
      stage := .written p snapshot name
      archives := l.archives ++ [entries] } k := by
  rcases covered with archived | ⟨early, waits⟩ | ⟨other, last, member⟩
  · exact Or.inl (archived.more (List.subset_append_left _ _))
  · rw [here] at early
    cases p with
    | ending => cases early
    | round left => exact Or.inr (Or.inl ⟨rfl, waits⟩)
  · rw [here] at last
    cases last
    obtain ⟨e, inside, stands⟩ := exists_entry planned member pending
    exact Or.inl ⟨entries, by simp, e, inside, stands⟩

/-- A last flush that failed at most by being cancelled, and found its name free, wrote no archive
only because there was nothing to write. -/
theorem last_snapshot_empty {l : Loop} {snapshot : List Kept} {w : Circumstances} {now : Instant}
    {result : Except GatherError (Option String)} {storage : Option Directory}
    (outcome : l.recorder.write (Purpose.ending.heeded l.cancelled w) now snapshot =
      (result, { l.recorder with storage }))
    (none : ∀ name, result ≠ .ok (some name))
    (errors : ∀ e, result = .error e → e = .cancelled)
    (free : ¬ Conclusion.FoundNameTaken ⟨.ending, snapshot, result⟩) : snapshot = [] := by
  -- The last flush does not heed the cancellation, so it cannot have ended by it either.
  have uncancelled := Recorder.write_uncancelled (w := Purpose.ending.heeded l.cancelled w)
    (fun _ => rfl) now snapshot l.recorder
  rw [outcome] at uncancelled
  by_contra filled
  cases result with
  | error e => exact uncancelled (congrArg Except.error (errors e rfl))
  | ok found =>
    cases found with
    | some name => exact none name rfl
    | none => exact free ⟨filled, rfl⟩

theorem change_covered {captures : List Kept} (one : OneContent captures) {l l' : Loop}
    (traced : l.Traced captures) {k : Kept} (known : k ∈ captures) (pending : k.isPending = true)
    (covered : l.Covered k) {e : Event} (change : l.Change e l')
    (writes : LastFlushWrites l'.conclusions) :
    l'.Covered k ∨ ∃ now r, e = .enter now r ∧ r.fileName = k.fileName ∧
      l.accepts now r = true := by
  cases change with
  | enter now r =>
    rcases enter_covered covered now r with still | replaced
    · exact Or.inl still
    · exact Or.inr ⟨now, r, rfl, replaced⟩
  | finish =>
    left
    refine covered.keep ?_ rfl (Or.inl rfl)
    simp only [buffer]
    split <;> rfl
  | cancel => exact Or.inl (covered.keep rfl rfl (Or.inl rfl))
  | tick here => exact Or.inl (covered.keep rfl rfl (Or.inr ⟨rfl, by rw [here]; rfl⟩))
  | hear here => exact Or.inl (covered.keep rfl rfl (Or.inr ⟨rfl, by rw [here]; rfl⟩))
  | snapshot here => exact Or.inl (snapshot_covered traced pending covered here)
  | @unwritten p snapshot here w now result storage outcome none =>
    left
    cases p with
    | round left =>
      exact covered.keep rfl rfl (Or.inr ⟨(next_round_early left result).2, by rw [here]; rfl⟩)
    | ending =>
      obtain ⟨errors, free⟩ := writes ⟨.ending, snapshot, result⟩ (by simp [conclude]) rfl
      rcases covered with archived | ⟨early, _⟩ | ⟨other, last, member⟩
      · exact Or.inl archived
      · rw [here] at early
        cases early
      · rw [here] at last
        cases last
        rw [last_snapshot_empty outcome none errors free] at member
        cases member
  | written here planned now storage name =>
    exact Or.inl (written_covered pending covered here planned storage name)
  | clear here => exact Or.inl (clear_covered one traced known covered here)
  | wake here => exact Or.inl (covered.keep rfl rfl (Or.inr ⟨rfl, by rw [here]; rfl⟩))
  | giveUp here => exact Or.inl (covered.keep rfl rfl (Or.inr ⟨rfl, by rw [here]; rfl⟩))
  | leave here => exact Or.inl (covered.keep rfl rfl (Or.inr ⟨rfl, by rw [here]; rfl⟩))
  | outside storage => exact Or.inl (covered.keep rfl rfl (Or.inl rfl))

theorem step_covered {captures : List Kept} (one : OneContent captures) {l : Loop}
    (traced : l.Traced captures) {k : Kept} (known : k ∈ captures) (pending : k.isPending = true)
    (covered : l.Covered k) (e : Event) (writes : LastFlushWrites (l.step e).conclusions) :
    (l.step e).Covered k ∨ ∃ now r, e = .enter now r ∧ r.fileName = k.fileName ∧
      l.accepts now r = true := by
  rcases step_cases l e with same | change
  · rw [same]
    exact Or.inl covered
  · exact change_covered one traced known pending covered change writes

theorem step_traced {captures : List Kept} {l : Loop} (traced : l.Traced captures) {e : Event}
    (inside : ∀ k, e.capture? = some k → k ∈ captures) : (l.step e).Traced captures := by
  rcases step_cases l e with same | change
  · rw [same]
    exact traced
  · exact change_traced traced inside change

theorem run_conclusions (l : Loop) (events : List Event) :
    l.conclusions ⊆ (l.run events).conclusions := by
  have grows := run_invariant (P := fun m => l.conclusions ⊆ m.conclusions)
    (fun sub change => List.Subset.trans sub (change_conclusions change))
      (List.Subset.refl _) events
  exact grows

theorem capturesOf_append (before after : List Event) :
    capturesOf (before ++ after) = capturesOf before ++ capturesOf after := List.filterMap_append

theorem run_traced {captures : List Kept} {l : Loop} (traced : l.Traced captures)
    {events : List Event} (inside : capturesOf events ⊆ captures) :
    (l.run events).Traced captures := by
  induction events generalizing l with
  | nil => exact traced
  | cons e rest ih =>
    obtain ⟨first, later⟩ := filterMap_cons_subset inside
    exact ih (step_traced traced first) later

theorem run_covered {captures : List Kept} (one : OneContent captures) {l : Loop}
    (traced : l.Traced captures) {k : Kept} (known : k ∈ captures) (pending : k.isPending = true)
    (covered : l.Covered k) {events : List Event} (inside : capturesOf events ⊆ captures)
    (writes : LastFlushWrites (l.run events).conclusions) :
    (l.run events).Covered k ∨ l.Replaced events k.fileName := by
  induction events generalizing l with
  | nil => exact Or.inl covered
  | cons e rest ih =>
    obtain ⟨first, later⟩ := filterMap_cons_subset inside
    have soFar : LastFlushWrites (l.step e).conclusions :=
      fun c member => writes c (run_conclusions (l.step e) rest member)
    rcases step_covered one traced known pending covered e soFar with still |
      ⟨now, r, rfl, here, accepted⟩
    · rcases ih (step_traced traced first) still later writes with kept |
        ⟨mid, now, r, after, split, here, accepted⟩
      · exact Or.inl kept
      · exact Or.inr ⟨e :: mid, now, r, after, by rw [split]; rfl, here, accepted⟩
    · exact Or.inr ⟨[], now, r, rest, rfl, here, accepted⟩

theorem isLast_of_isLate {s : Stage} (late : isLate s = true) : isLast s = true := by
  cases s with
  | taken p snapshot => cases p <;> first | rfl | cases late
  | written p snapshot name => cases p <;> first | rfl | cases late
  | returned => rfl
  | _ => cases late

theorem accepted_covered {captures : List Kept} {l : Loop} (traced : l.Traced captures)
    (running : l.cancelled = false) {now : Instant} {r : Record}
    (accepted : l.accepts now r = true) :
    ∃ k, captureOf now r = some k ∧ k.fileName = r.fileName ∧ k.isPending = true ∧
      (l.enter now r).Covered k := by
  have early : isLate l.stage = false := by
    by_contra late
    have cancelled := traced.last (isLast_of_isLate (Bool.not_eq_false _ ▸ late))
    rw [running] at cancelled
    cases cancelled
  rcases Buffer.record_capture l.recorder.bounds now r l.buffer with
    ⟨refused, _⟩ | ⟨k, captured, named, pending, _, taken⟩
  · exact absurd accepted (by simp [accepts, refused])
  · refine ⟨k, captured, named, pending, Or.inr (Or.inl ⟨early, ?_⟩)⟩
    have after : (l.enter now r).buffer.get? k.fileName =
        (l.buffer.record l.recorder.bounds now r).2.kept.lookup k.fileName := rfl
    rw [Waits, after, taken, named]
    exact lookup_insert_self _ _ _

/-- A record that is accepted while the run is not cancelled has a capture, and when the loop has
returned that is in an archive, under the name that is stored for it and with its bytes, or a later
record was accepted under its file name. Flushes may be cancelled meanwhile, but none fails
otherwise, and the last one does not find something under the name of its archive; and no other
capture of the same file name, time and fingerprint has other bytes. -/
theorem shutdown_writes_accepted (bounds : Bounds) (interval : Nat) (storage : Option Directory)
    (before after : List Event) (now : Instant) (r : Record) :
    let begun := start bounds interval storage
    let events := before ++ .enter now r :: after
    let l := begun.run events
    OneContent (capturesOf events) → (begun.run before).cancelled = false →
      (begun.run before).accepts now r = true → l.stage = .returned →
      (∀ c ∈ l.conclusions, ∀ e, c.result = .error e → e = .cancelled) →
      (∀ c ∈ l.conclusions, c.purpose = .ending → ¬ c.FoundNameTaken) →
      ∃ k, captureOf now r = some k ∧
        (l.Archived k ∨ (begun.run (before ++ [.enter now r])).Replaced after r.fileName) := by
  intro begun events l one running accepted returned unfailing free
  have split : events = before ++ [.enter now r] ++ after := List.append_cons _ _ _
  have inside : capturesOf (before ++ [.enter now r]) ⊆ capturesOf events ∧
      capturesOf after ⊆ capturesOf events ∧
      capturesOf before ⊆ capturesOf events := by
    rw [split, capturesOf_append _ after]
    refine ⟨List.subset_append_left _ _, List.subset_append_right _ _, ?_⟩
    rw [capturesOf_append]
    exact List.subset_append_of_subset_left _ (List.subset_append_left _ _)
  have started : begun.Traced (capturesOf events) := start_traced _ bounds interval storage
  have traced := run_traced started inside.1
  have here : begun.run (before ++ [.enter now r]) = (begun.run before).enter now r :=
    run_append _ _ _
  have onwards : l = (begun.run (before ++ [.enter now r])).run after := by
    rw [← run_append, ← split]
  obtain ⟨k, captured, named, pending, covered⟩ :=
    accepted_covered (run_traced started inside.2.2) running accepted
  refine ⟨k, captured, ?_⟩
  have known : k ∈ capturesOf events :=
    List.mem_filterMap.mpr ⟨.enter now r, by simp [events], captured⟩
  have writes : LastFlushWrites l.conclusions :=
    fun c member ending => ⟨unfailing c member, free c member ending⟩
  rw [← here] at covered
  rw [onwards] at writes
  rcases run_covered one traced known pending covered inside.2.1 writes with
    (archived | ⟨still, _⟩ | ⟨_, last, _⟩) | replaced
  · left
    rw [onwards]
    exact archived
  · rw [← onwards, returned] at still
    cases still
  · rw [← onwards, returned] at last
    cases last
  · exact Or.inr (named ▸ replaced)

def flushing (now : Instant) : List Event := [.snapshot, .write (.calm false) now, .clear]

/-- The run is cancelled while a flush writes, and a record that came meanwhile is in the last
archive too. -/
def cutShort : List Event :=
  [.cancel, .write (.calm true) ⟨20, 0⟩, .giveUp, .leave] ++ flushing ⟨20, 0⟩

theorem cutShort_written :
    let begun := start ⟨100, 100⟩ 60 (some .empty)
    let before : List Event := [.enter ⟨10, 0⟩ ⟨"version", .raw [1], none, "a"⟩, .tick, .snapshot]
    let nodes : Record := ⟨"nodes", .raw [2], none, "b"⟩
    let events := before ++ .enter ⟨11, 0⟩ nodes :: cutShort
    let l := begun.run events
    OneContent (capturesOf events) ∧ (begun.run before).accepts ⟨11, 0⟩ nodes = true ∧
      l.stage = .returned ∧
      l.Archived ⟨"nodes", "b", ⟨11, 0⟩, some [2]⟩ := by
  intro begun before nodes events l
  have captures : capturesOf events =
      [⟨"version", "a", ⟨10, 0⟩, some [1]⟩, ⟨"nodes", "b", ⟨11, 0⟩, some [2]⟩] := by decide +kernel
  have one : OneContent (capturesOf events) := by
    intro a insideA b insideB named same
    rw [captures, List.mem_pair] at insideA insideB
    rcases insideA with rfl | rfl <;> rcases insideB with rfl | rfl <;> simp_all
  have accepted : (begun.run before).accepts ⟨11, 0⟩ nodes = true := by decide +kernel
  have returned : l.stage = .returned := by decide +kernel
  have ends : l.conclusions.map (fun c => c.result) =
      [.error .cancelled, .ok (some "insights-1970-01-01-000011.tar.gz")] := by decide +kernel
  have either : ∀ c ∈ l.conclusions, c.result = .error .cancelled ∨
      c.result = .ok (some "insights-1970-01-01-000011.tar.gz") := by
    intro c member
    have inside : c.result ∈ l.conclusions.map fun c => c.result := List.mem_map_of_mem member
    rw [ends] at inside
    exact List.mem_pair.mp inside
  have unfailing : ∀ c ∈ l.conclusions, ∀ e, c.result = .error e → e = .cancelled := by
    intro c member e failed
    rcases either c member with cancelled | written
    · exact (Except.error.inj (cancelled.symm.trans failed)).symm
    · cases written.symm.trans failed
  have free : ∀ c ∈ l.conclusions, c.purpose = .ending → ¬ c.FoundNameTaken := by
    rintro c member - ⟨_, none⟩
    rcases either c member with cancelled | written
    · cases cancelled.symm.trans none
    · cases written.symm.trans none
  obtain ⟨k, captured, archived | ⟨mid, later, other, rest, split, _, _⟩⟩ :=
    shutdown_writes_accepted ⟨100, 100⟩ 60 (some .empty) before cutShort ⟨11,
      0⟩ nodes one rfl accepted returned
      unfailing free
  · cases captured.symm.trans
      (by decide +kernel : captureOf ⟨11, 0⟩ nodes = some ⟨"nodes", "b", ⟨11, 0⟩, some [2]⟩)
    exact ⟨one, accepted, returned, archived⟩
  · have inside : Event.enter later other ∈ cutShort := by simp [split]
    simp [cutShort, flushing] at inside

/-- A record that was accepted before the cancellation is neither in an archive nor replaced when
the loop returns, though no flush failed. -/
structure Loses (begun : Loop) (before : List Event) (now : Instant) (r : Record)
    (after : List Event) : Prop where
  running : (begun.run before).cancelled = false
  accepted : (begun.run before).accepts now r = true
  returned : (begun.run (before ++ .enter now r :: after)).stage = .returned
  unfailing : ∀ c ∈ (begun.run (before ++ .enter now r :: after)).conclusions, ∀ e, c.result =
    .error e → e = .cancelled
  unwritten : ∀ k, captureOf now r = some k →
    ¬ (begun.run (before ++ .enter now r :: after)).Archived k
  last : ¬ (begun.run (before ++ [.enter now r])).Replaced after r.fileName

/-- A record is written. The archive that has it is named for the same time as that of a record
captured at once after it. -/
def firstWritten : List Event :=
  .enter ⟨10, 0⟩ ⟨"version", .raw [1], none, "a"⟩ :: .tick :: flushing ⟨10, 0⟩

/-- Two captures of one record come back to the time and fingerprint of the first, with other bytes,
while that is being written. -/
def cameBack : List Event :=
  [.enter ⟨10, 0⟩ ⟨"version", .raw [1], none, "a"⟩, .tick, .snapshot,
    .enter ⟨20, 0⟩ ⟨"version", .raw [2], none, "b"⟩]

theorem Loses.of_results {begun : Loop} {before after : List Event} {now : Instant}
    {r : Record} {k : Kept} (captured : captureOf now r = some k)
    (running : (begun.run before).cancelled = false)
    (accepted : (begun.run before).accepts now r = true)
    (returned : (begun.run (before ++ .enter now r :: after)).stage = .returned)
    (unfailing : (begun.run (before ++ .enter now r :: after)).conclusions.all (fun c =>
      c.result.toBool) =
        true) (unwritten : (begun.run (before ++ .enter now r :: after)).archives.all
      (fun entries => entries.all fun e => k.data ≠ some e.data) = true)
    (last : capturesOf after = []) : begun.Loses before now r after := by
  refine ⟨running, accepted, returned, ?_, ?_, ?_⟩
  · intro c member e failed
    have succeeded := List.all_eq_true.mp unfailing c member
    rw [failed] at succeeded
    cases succeeded
  · rintro other same ⟨entries, inside, e, here, stands⟩
    rw [captured] at same
    cases same
    have differs := List.all_eq_true.mp (List.all_eq_true.mp unwritten entries inside) e here
    exact of_decide_eq_true differs stands.data
  · rintro ⟨mid, later, other, rest, split, _, taken⟩
    rcases Buffer.record_capture
      ((begun.run (before ++ [.enter now r])).run mid).recorder.bounds later other
        ((begun.run (before ++ [.enter now r])).run mid).buffer
          with ⟨refused, _⟩ | ⟨k', captured', _⟩
    · rw [accepts, refused] at taken
      cases taken
    · have inside : k' ∈ capturesOf after :=
        List.mem_filterMap.mpr ⟨.enter later other, by simp [split], captured'⟩
      rw [last] at inside
      cases inside

theorem shutdown_loses_records :
    let begun := start ⟨100, 100⟩ 60 (some .empty)
    let nodes : Record := ⟨"nodes", .raw [2], none, "b"⟩
    let version : Record := ⟨"version", .raw [3], some ⟨10, 0⟩, "a"⟩
    let last : List Event := .cancel :: .leave :: flushing ⟨30, 0⟩
    let rest : List Event := .write (.calm false) ⟨20, 0⟩ :: .clear :: last
    (OneContent (capturesOf (firstWritten ++ .enter ⟨10, 1⟩ nodes :: last)) ∧
      begun.Loses firstWritten ⟨10, 1⟩ nodes last) ∧
    (∀ c ∈ (begun.run (cameBack ++ .enter ⟨20, 0⟩ version :: rest)).conclusions,
        ¬ c.FoundNameTaken) ∧
      begun.Loses cameBack ⟨20, 0⟩ version rest := by
  intro begun nodes version last rest
  refine ⟨⟨?_, ?_⟩, ?_, ?_⟩
  · have captures : capturesOf (firstWritten ++ .enter ⟨10, 1⟩ nodes :: last) =
        [⟨"version", "a", ⟨10, 0⟩, some [1]⟩, ⟨"nodes", "b", ⟨10, 1⟩, some [2]⟩] := by
          decide +kernel
    intro a insideA b insideB named same
    rw [captures, List.mem_pair] at insideA insideB
    rcases insideA with rfl | rfl <;> rcases insideB with rfl | rfl <;> simp_all
  · apply Loses.of_results (k := ⟨"nodes", "b", ⟨10, 1⟩, some [2]⟩) (by decide +kernel) rfl
    · decide +kernel
    · decide +kernel
    · decide +kernel
    · decide +kernel
    · rfl
  · have empty : (begun.run (cameBack ++ .enter ⟨20, 0⟩ version :: rest)).conclusions.all
        (fun c => c.snapshot = [] || c.result.toOption ≠ some none) = true := by decide +kernel
    rintro c member ⟨filled, none⟩
    have decided := List.all_eq_true.mp empty c member
    simp [filled, none, Except.toOption] at decided
  · apply Loses.of_results (k := ⟨"version", "a", ⟨10, 0⟩, some [3]⟩) (by decide +kernel) rfl
    · decide +kernel
    · decide +kernel
    · decide +kernel
    · decide +kernel
    · rfl

end Loop

end ClusterSurvey.Recording
