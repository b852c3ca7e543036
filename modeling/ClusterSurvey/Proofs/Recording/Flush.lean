import ClusterSurvey.Proofs.Recording.Archive
import ClusterSurvey.Proofs.Recording.Buffer
import ClusterSurvey.Proofs.Recording.EntryName
import ClusterSurvey.Proofs.Time.Instant
import ClusterSurvey.Recording.Recorder

/-!
A flush that nothing comes between is all or nothing. Either all records wait on and no archive is
there that was not there before, because there is nothing to write, the name of the archive is taken
or something fails; or everything that waits is in one new archive, and then nothing waits any more.
-/
namespace ClusterSurvey.Recording
open Keyed

structure IsNewest (newest : Instant) (records : List Kept) : Prop where
  captured : ∃ k ∈ records, k.capturedAt = newest
  latest : ∀ k ∈ records, k.capturedAt ≤ newest

namespace Recorder

theorem newest?_eq_some_iff {records : List Kept} {newest : Instant} :
    newest? records = some newest ↔ IsNewest newest records := by
  have spec : ∀ t, newest? records = some t → IsNewest t records := by
    intro t found
    cases records with
    | nil => cases found
    | cons k rest =>
      have folded : (rest.map (·.capturedAt)).foldl Instant.latest k.capturedAt = t := by
        rw [List.foldl_map]
        exact Option.some.inj found
      obtain ⟨member, bound⟩ := Instant.foldl_latest k.capturedAt (rest.map (·.capturedAt))
      rw [folded, ← List.map_cons (f := fun k : Kept => k.capturedAt)] at member bound
      exact ⟨List.mem_map.mp member, fun l inside => bound _ (List.mem_map_of_mem inside)⟩
  constructor
  · exact spec newest
  · intro isNewest
    cases found : newest? records with
    | none =>
      obtain ⟨k, member, _⟩ := isNewest.captured
      cases records with
      | nil => cases member
      | cons l rest => cases found
    | some t =>
      have other := spec t found
      obtain ⟨k, member, here⟩ := isNewest.captured
      obtain ⟨l, inside, there⟩ := other.captured
      have below := isNewest.latest l inside
      have above := other.latest k member
      rw [here] at above
      rw [there] at below
      rw [Instant.le_antisymm below above]

/-- Something stands under a name in the directory. -/
def Taken (s : Recorder) (name : String) : Prop :=
  ∃ d, s.storage = some d ∧ (d.get? name).isSome = true

/-- Nothing keeps the records that wait from being written: the directory is there and the file can
be created, each record is reached before the run is cancelled and can be written, also with its
name, and the archive can be closed. -/
structure Writable (s : Recorder) (w : Circumstances) : Prop where
  stored : s.storage.isSome = true
  created : w.creationFailure = none
  reached : ∀ i < s.buffer.pending.length, w.cancelled i = false ∧ w.entryFailure i = none
  named : ∀ k ∈ s.buffer.pending, ¬ EntryName.NulInHeader k.fileName
  closed : w.closingFailure = none

/-- Everything that waited before is in one new archive, and known to be written. -/
structure Flushed (name : String) (now : Instant) (before after : Recorder) : Prop where
  archive : ∃ d d' entries, before.storage = some d ∧ d.get? name = none ∧ after.storage = some d' ∧
    d'.nodes.Perm ((name, .file (.archive entries) now) :: d.nodes) ∧
    (entries.map (·.name)).Pairwise (· < ·) ∧
    ∀ fileName data, (∃ e ∈ entries, e.name = fileName ∧ e.data = data) ↔
      ∃ k, before.buffer.get? fileName = some k ∧ k.data = some data
  settled : after.pending = (0, 0)
  remembered : ∀ fileName, after.buffer.get? fileName =
    (before.buffer.get? fileName).map Kept.settled
  unchanged : after = { before with buffer := after.buffer, storage := after.storage }

end Recorder

theorem entriesOf_plain {w : Circumstances} {i : Nat} {records : List Kept}
    {entries : List ArchiveEntry} (plain : ∀ k ∈ records, EntryName.Plain k.fileName)
    (waiting : ∀ k ∈ records, k.isPending = true) (planned : entriesOf w i records = .ok entries) :
    entries.map (fun e => (e.name, some e.data)) = records.map fun k => (k.fileName, k.data) := by
  have pairs := entriesOf_ok planned
  rw [List.filter_eq_self.mpr waiting] at pairs
  clear planned waiting
  induction pairs with
  | nil => rfl
  | @cons e k es ks stands rest ih =>
    obtain ⟨plainFirst, plainRest⟩ := List.forall_mem_cons.mp plain
    have clean : ¬ EntryName.NulInHeader k.fileName := by
      intro nul
      obtain ⟨fault, refused⟩ := EntryName.stored_of_nul nul
      rw [stands.name] at refused
      cases refused
    have name : k.fileName = e.name :=
      Except.ok.inj ((EntryName.stored_plain plainFirst clean).symm.trans stands.name)
    rw [List.map_cons, List.map_cons, ih plainRest, name, stands.data]

namespace Recorder

theorem writable_iff {s : Recorder} (plain : ∀ k ∈ s.buffer.pending, EntryName.Plain k.fileName)
    (w : Circumstances) : s.Writable w ↔ s.storage.isSome = true ∧ w.creationFailure = none ∧
      ∃ entries, entriesOf w 0 s.buffer.pending = .ok entries := by
  have waiting : ∀ k ∈ s.buffer.pending, k.isPending = true :=
    fun k member => (List.mem_filter.mp member).2
  have fault : ∀ k ∈ s.buffer.pending, (∃ fault, EntryName.stored k.fileName = .error fault) ↔
      EntryName.NulInHeader k.fileName := by
    intro k member
    constructor
    · rintro ⟨fault, refused⟩
      by_contra clean
      rw [EntryName.stored_plain (plain k member) clean] at refused
      cases refused
    · exact EntryName.stored_of_nul
  have outcome : (∃ entries, entriesOf w 0 s.buffer.pending = .ok entries) ↔
      ¬ w.Interrupts 0 s.buffer.pending := by
    rw [← entriesOf_error_iff w 0 waiting]
    cases entriesOf w 0 s.buffer.pending with
    | error e => simp
    | ok entries => simp
  rw [outcome, Circumstances.Interrupts]
  constructor
  · intro h
    refine ⟨h.stored, h.created, ?_⟩
    rintro (⟨i, less, cancelled | failed⟩ | ⟨k, member, refused⟩ | unclosed)
    · rw [Nat.zero_add, (h.reached i less).1] at cancelled
      cases cancelled
    · rw [Nat.zero_add, (h.reached i less).2] at failed
      cases failed
    · exact h.named k member ((fault k member).mp refused)
    · simp [h.closed] at unclosed
  · rintro ⟨stored, created, uninterrupted⟩
    simp only [not_or, not_exists, not_and] at uninterrupted
    obtain ⟨reached, named, closed⟩ := uninterrupted
    refine ⟨stored, created, ?_, ?_, ?_⟩
    · intro i less
      have := reached i less
      simpa using this
    · intro k member nul
      obtain ⟨fault, refused⟩ := (fault k member).mpr nul
      exact named k member fault refused
    · simpa using closed

theorem free_of_untaken {s : Recorder} {name : String} (untaken : ¬ s.Taken name) {d : Directory}
    (there : s.storage = some d) : d.get? name = none := by
  by_contra some
  exact untaken ⟨d, there, Option.isSome_iff_ne_none.mpr some⟩

theorem flush_unwritten {s : Recorder} {w : Circumstances} {now newest : Instant}
    (found : newest? s.buffer.pending = some newest) {result : Except GatherError Bool}
    {storage : Option Directory}
    (outcome : writeArchive w now (archiveName newest) s.buffer.pending s.storage =
      (result, storage)) (unwritten : result ≠ .ok true) :
    s.flush w now = (result.map fun _ => none, { s with storage }) := by
  simp only [flush, write, found, outcome]
  cases result with
  | error e => rfl
  | ok done =>
    cases done with
    | false => rfl
    | true => exact absurd rfl unwritten

theorem flushed_of_entries {s : Recorder} (sound : s.buffer.Sound)
    (plain : ∀ k ∈ s.buffer.pending, EntryName.Plain k.fileName) {w : Circumstances} {name : String}
    {d : Directory} (there : s.storage = some d) (free : d.get? name = none)
    {entries : List ArchiveEntry} (planned : entriesOf w 0 s.buffer.pending = .ok entries)
    (now : Instant) :
    Flushed name now s (clear s.buffer.pending
      { s with storage := some (d.set name (.file (.archive entries) now)) }) := by
  have waiting : ∀ k ∈ s.buffer.pending, k.isPending = true :=
    fun k member => (List.mem_filter.mp member).2
  have image := entriesOf_plain plain waiting planned
  have settled := Buffer.clear_pending sound
  refine ⟨⟨d, _, entries, there, free, rfl, perm_insert free _, ?_, ?_⟩, ?_, ?_, rfl⟩
  · have names : entries.map (·.name) = s.buffer.pending.map (·.fileName) := by
      have := congrArg (List.map Prod.fst) image
      simpa only [List.map_map, Function.comp_def] using this
    rw [names]
    exact Buffer.pending_ascending sound
  · intro fileName data
    have member : (fileName, some data) ∈ entries.map (fun e => (e.name, some e.data)) ↔
        (fileName, some data) ∈ s.buffer.pending.map fun k => (k.fileName, k.data) := by rw [image]
    rw [List.mem_map, List.mem_map] at member
    simp only [Prod.mk.injEq, Option.some.injEq] at member
    rw [member]
    constructor
    · rintro ⟨k, inside, rfl, present⟩
      exact ⟨k, ((Buffer.mem_pending_iff sound).mp inside).1, present⟩
    · rintro ⟨k, found, present⟩
      have named : fileName = k.fileName := sound.named _ (mem_of_lookup found)
      refine ⟨k, (Buffer.mem_pending_iff sound).mpr ⟨named ▸ found, ?_⟩, named.symm, present⟩
      simp [Kept.isPending, present]
  · simp only [Recorder.pending, clear, settled, Buffer.pending_settled, List.length_nil]
  · intro fileName
    simp only [clear, settled, Buffer.get?, lookup_mapValues]

/-- A flush of a sound buffer, as every reachable one is, that nothing comes between. If nothing
waits, or there is a file that is named for the newest record, nothing changes and no archive is
reported. If anything fails before the archive is complete, that is reported, all records wait on,
and no file is left unless it cannot be removed. Else there is one new archive, named for the newest
record. -/
theorem flush_all_or_nothing {s : Recorder} (sound : s.buffer.Sound)
    (plain : ∀ k ∈ s.buffer.pending, EntryName.Plain k.fileName) (w : Circumstances)
    (now : Instant) :
    (s.buffer.pending = [] ∧ s.flush w now = (.ok none, s)) ∨
    ∃ newest, IsNewest newest s.buffer.pending ∧
      (s.Taken (archiveName newest) → s.flush w now = (.ok none, s)) ∧
      (¬ s.Taken (archiveName newest) → ¬ s.Writable w →
        ∃ e storage, s.flush w now = (.error e, { s with storage }) ∧
          (w.removable = true → storage = s.storage)) ∧
      (¬ s.Taken (archiveName newest) → s.Writable w →
        ∃ after, s.flush w now = (.ok (some (archiveName newest)), after) ∧
          Flushed (archiveName newest) now s after) := by
  cases found : newest? s.buffer.pending with
  | none =>
    left
    cases nothing : s.buffer.pending with
    | nil => exact ⟨rfl, by simp only [flush, write, found]⟩
    | cons k rest => rw [nothing] at found; cases found
  | some newest =>
    refine Or.inr ⟨newest, newest?_eq_some_iff.mp found, ?_, ?_, ?_⟩
    · rintro ⟨d, there, taken⟩
      have refused : writeArchive w now (archiveName newest) s.buffer.pending s.storage =
          (.ok false, s.storage) := by
        rw [there]
        exact writeArchive_taken taken w now _
      exact flush_unwritten found refused (by simp)
    · intro untaken hindered
      rw [writable_iff plain] at hindered
      have failed : ∃ e storage,
          writeArchive w now (archiveName newest) s.buffer.pending s.storage =
          (.error e, storage) ∧ (w.removable = true → storage = s.storage) := by
        cases there : s.storage with
        | none => exact ⟨_, none, rfl, fun _ => rfl⟩
        | some d =>
          have free := free_of_untaken untaken there
          cases created : w.creationFailure with
          | some text =>
              exact ⟨uncreated text, some d, by simp [writeArchive, free, created], fun _ => rfl⟩
          | none =>
            obtain ⟨left, written⟩ := writeArchive_free free created now s.buffer.pending
            cases planned : entriesOf w 0 s.buffer.pending with
            | error e =>
              rw [planned] at written
              exact ⟨e, _, written, fun removable => by rw [if_pos removable]⟩
            | ok entries => exact absurd ⟨by rw [there]; rfl, created, entries, planned⟩ hindered
      obtain ⟨e, storage, outcome, removed⟩ := failed
      exact ⟨e, storage, flush_unwritten found outcome (by simp), removed⟩
    · intro untaken writable
      obtain ⟨stored, created, entries, planned⟩ := (writable_iff plain w).mp writable
      obtain ⟨d, there⟩ := Option.isSome_iff_exists.mp stored
      have free := free_of_untaken untaken there
      refine ⟨_, ?_, flushed_of_entries sound plain there free planned now⟩
      obtain ⟨left, written⟩ := writeArchive_free free created now s.buffer.pending
      simp only [flush, write, found, there, written, planned]
      rfl

/-- Two records wait, and one was written before. -/
def halfWritten : Recorder where
  bounds := ⟨100, 100⟩
  interval := 60
  buffer := ⟨[("config/version", ⟨"config/version", "a", ⟨10, 0⟩, some [1, 2]⟩),
    ("events.json", ⟨"events.json", "b", ⟨5, 0⟩, none⟩),
    ("nodes/first.json", ⟨"nodes/first.json", "c", ⟨20, 7⟩, some [3]⟩)], 3⟩
  storage := some ⟨[("lost+found", .directory)]⟩
  flushWanted := false
  looping := true

theorem halfWritten_flushed :
    halfWritten.buffer.Sound ∧ (∀ k ∈ halfWritten.buffer.pending, EntryName.Plain k.fileName) ∧
      ∃ after, halfWritten.flush (.calm false) ⟨30, 0⟩ = (.ok (some (archiveName ⟨20, 7⟩)), after) ∧
        Flushed (archiveName ⟨20, 7⟩) ⟨30, 0⟩ halfWritten after := by
  have sound : halfWritten.buffer.Sound := ⟨by unfold Ascending; decide, by decide, by decide⟩
  have plain : ∀ k ∈ halfWritten.buffer.pending, EntryName.Plain k.fileName := by decide
  refine ⟨sound, plain, ?_⟩
  rcases flush_all_or_nothing sound plain (.calm false) ⟨30, 0⟩ with
    ⟨nothing, _⟩ | ⟨newest, isNewest, _, _, succeeds⟩
  · exact absurd nothing (by decide)
  · have latest : newest = ⟨20, 7⟩ :=
      Option.some.inj ((newest?_eq_some_iff.mpr isNewest).symm.trans (by decide))
    subst latest
    refine succeeds ?_ ⟨rfl, rfl, fun _ _ => ⟨rfl, rfl⟩, by decide, rfl⟩
    rintro ⟨d, there, taken⟩
    cases there
    exact absurd taken (by decide)

end Recorder

end ClusterSurvey.Recording
