import ClusterSurvey.Proofs.Recording.Session

/-!
No accepted record is lost, in whatever order records and the steps of flushes come. What is kept
with bytes comes from a record of the run, and so does what a snapshot holds; a snapshot that was
written is in an archive, record by record. A clearing drops bytes only for a capture that its
snapshot has. If records with one file name and one fingerprint have the same bytes, the archive has
exactly the bytes that are dropped.
-/
namespace ClusterSurvey.Recording
open Keyed

def Step.record? : Step → Option Record
  | .record _ r => some r
  | _ => none

def recordsOf (steps : List Step) : List Record := steps.filterMap Step.record?

/-- A fingerprint under a file name stands for the same bytes in all records. -/
def Consistent (records : List Record) : Prop :=
  ∀ a ∈ records, ∀ b ∈ records, ∀ data other fingerprint, a.fileName = b.fileName →
    a.marshal = .ok (data, fingerprint) → b.marshal = .ok (other, fingerprint) → data = other

/-- Entries are stored under the file names of the records, if they are stored. -/
def StoredAsNamed (records : List Record) : Prop :=
  ∀ r ∈ records, ∀ name, EntryName.stored r.fileName = .ok name → name = r.fileName

/-- The bytes that wait are those of a record with this file name and fingerprint. -/
def Kept.KnownFrom (k : Kept) (records : List Record) : Prop :=
  ∀ data, k.data = some data → ∃ r ∈ records, r.fileName = k.fileName ∧
    r.marshal = .ok (data, k.fingerprint)

namespace Session

/-- Whether a record would be taken now, and not be passed over as unchanged. -/
def accepts (s : Session) (now : Instant) (r : Record) : Bool :=
  (s.buffer.record s.recorder.bounds now r).1.isAccepted

def Waits (s : Session) (fileName : String) (data : Bytes) : Prop :=
  ∃ k, s.buffer.get? fileName = some k ∧ k.data = some data

def Archived (s : Session) (fileName : String) (data : Bytes) : Prop :=
  ∃ entries ∈ s.archives, ∃ e ∈ entries, e.name = fileName ∧ e.data = data

def Replaced (s : Session) (steps : List Step) (fileName : String) : Prop :=
  ∃ before now r after, steps = before ++ .record now r :: after ∧ r.fileName = fileName ∧
    (s.run before).accepts now r = true

/-- What holds bytes traces back to the records, and what was written is in an archive. -/
structure Traced (records : List Record) (s : Session) : Prop where
  sound : s.buffer.Sound
  kept : ∀ p ∈ s.buffer.kept, p.2.KnownFrom records
  snapshots : ∀ f ∈ s.flushes, ∀ k ∈ f.snapshot, k.isPending = true ∧ k.KnownFrom records
  written : ∀ f ∈ s.flushes, f.phase = .written → ∀ k ∈ f.snapshot, ∀ data, k.data = some data →
    s.Archived k.fileName data

theorem start_traced (records : List Record) (bounds : Bounds) (interval : Nat)
    (storage : Option Directory) : (start bounds interval storage).Traced records where
  sound := Buffer.empty_sound
  kept := by simp [start, buffer, Buffer.empty]
  snapshots := by simp [start]
  written := by simp [start]

theorem record_traced {records : List Record} {s : Session}
    (traced : s.Traced records) (now : Instant) {r : Record} (inside : r ∈ records) :
    (s.record now r).Traced records := by
  refine ⟨Buffer.record_sound traced.sound _ now r, ?_, traced.snapshots, traced.written⟩
  intro p member
  rw [buffer_record] at member
  rcases Buffer.record_cases s.recorder.bounds now r s.buffer with
    ⟨_, same⟩ | ⟨data, fingerprint, marshalled, _, _, taken⟩
  · rw [same] at member
    exact traced.kept p member
  · rw [taken] at member
    rcases mem_insert member with fresh | old
    · intro waiting present
      rw [fresh] at present ⊢
      cases present
      exact ⟨r, inside, rfl, marshalled⟩
    · exact traced.kept p old

theorem snapshot_traced {records : List Record} {s : Session} (traced : s.Traced records) :
    s.snapshot.Traced records := by
  refine ⟨traced.sound, traced.kept, ?_, ?_⟩
  · intro f member k inside
    rcases List.mem_append.mp member with old | new
    · exact traced.snapshots f old k inside
    · rw [List.mem_singleton.mp new] at inside
      obtain ⟨stands, pending⟩ := List.mem_filter.mp inside
      obtain ⟨p, here, rfl⟩ := List.mem_map.mp stands
      exact ⟨pending, traced.kept p here⟩
  · intro f member phase
    rcases List.mem_append.mp member with old | new
    · exact traced.written f old phase
    · rw [List.mem_singleton.mp new] at phase
      cases phase

theorem entries_hold {records : List Record} (named : StoredAsNamed records) {w : Circumstances}
    {snapshot : List Kept} {entries : List ArchiveEntry}
    (planned : entriesOf w 0 snapshot = .ok entries) {k : Kept} (member : k ∈ snapshot)
    (known : k.KnownFrom records) {data : Bytes} (present : k.data = some data) :
    ∃ e ∈ entries, e.name = k.fileName ∧ e.data = data := by
  obtain ⟨e, inside, stands⟩ := exists_entry planned member (by simp [Kept.isPending, present])
  obtain ⟨r, here, same, _⟩ := known data present
  refine ⟨e, inside, ?_, Option.some.inj (stands.data.symm.trans present)⟩
  exact (named r here e.name (same ▸ stands.name)).trans same

theorem Archived.more {s t : Session} (grows : s.archives ⊆ t.archives)
    {fileName : String} {data : Bytes} (h : s.Archived fileName data) :
    t.Archived fileName data := by
  obtain ⟨entries, inside, found⟩ := h
  exact ⟨entries, grows inside, found⟩

theorem snapshots_set {P : Kept → Prop} {flushes : List Flush} {snapshot : List Kept} {old : Phase}
    (all : ∀ f ∈ flushes, ∀ k ∈ f.snapshot, P k) (here : ⟨snapshot, old⟩ ∈ flushes)
    (i : Nat) (new : Phase) :
    ∀ f ∈ flushes.set i ⟨snapshot, new⟩, ∀ k ∈ f.snapshot, P k := by
  intro f member
  rcases List.mem_or_eq_of_mem_set member with other | same
  · exact all f other
  · subst same
    exact fun k inside => all ⟨snapshot, old⟩ here k inside

theorem written_of_mem_set_ended {flushes : List Flush} {snapshot : List Kept} {i : Nat} {f : Flush}
    (member : f ∈ flushes.set i ⟨snapshot, .ended⟩) (phase : f.phase = .written) : f ∈ flushes := by
  rcases List.mem_or_eq_of_mem_set member with other | same
  · exact other
  · subst same
    cases phase

theorem write_traced {records : List Record} (named : StoredAsNamed records) {s : Session}
    (traced : s.Traced records) (i : Nat) (w : Circumstances) (now : Instant) :
    (s.write i w now).Traced records := by
  rcases write_cases i w now s with same |
    ⟨snapshot, storage, found, ended | ⟨entries, planned, done⟩⟩
  · rw [same]
    exact traced
  · rw [ended]
    exact ⟨traced.sound, traced.kept,
      snapshots_set traced.snapshots (List.mem_of_getElem? found) i .ended,
      fun f member phase => traced.written f (written_of_mem_set_ended member phase) phase⟩
  · rw [done]
    have here := List.mem_of_getElem? found
    refine ⟨traced.sound, traced.kept, snapshots_set traced.snapshots here i .written, ?_⟩
    intro f member phase k inside data present
    rcases List.mem_or_eq_of_mem_set member with other | same
    · exact (traced.written f other phase k inside data present).more (List.subset_append_left _ _)
    · subst same
      exact ⟨entries, by simp,
        entries_hold named planned inside (traced.snapshots _ here k inside).2 present⟩

theorem cleared_knownFrom {records : List Record} {k : Kept} (known : k.KnownFrom records)
    (written : List Kept) (fileName : String) :
    (Buffer.cleared written fileName k).KnownFrom records := by
  unfold Buffer.cleared
  split
  · intro data present
    cases present
  · exact known

theorem clear_traced {records : List Record} {s : Session} (traced : s.Traced records) (i : Nat) :
    (s.clear i).Traced records := by
  rcases clear_cases i s with same | ⟨snapshot, found, cleared⟩
  · rw [same]
    exact traced
  · rw [cleared]
    refine ⟨Buffer.clear_sound traced.sound snapshot, ?_,
      snapshots_set traced.snapshots (List.mem_of_getElem? found) i .ended,
      fun f member phase => traced.written f (written_of_mem_set_ended member phase) phase⟩
    intro p member
    have kept : (s.buffer.clear snapshot).kept =
        mapValues (Buffer.cleared snapshot) s.buffer.kept :=
      Buffer.clearAll_kept traced.sound.ascending snapshot
    have member' : p ∈ (s.buffer.clear snapshot).kept := member
    rw [kept] at member'
    obtain ⟨q, inside, rfl⟩ := List.mem_map.mp member'
    exact cleared_knownFrom (traced.kept q inside) snapshot q.1

theorem step_traced {records : List Record} (named : StoredAsNamed records) {s : Session}
    (traced : s.Traced records) {e : Step} (inside : ∀ r, e.record? = some r → r ∈ records) :
    (s.step e).Traced records := by
  cases e with
  | record now r => exact record_traced traced now (inside r rfl)
  | snapshot => exact snapshot_traced traced
  | write i w now => exact write_traced named traced i w now
  | clear i => exact clear_traced traced i
  | outside storage => exact ⟨traced.sound, traced.kept, traced.snapshots, traced.written⟩

theorem recordsOf_append (before after : List Step) :
    recordsOf (before ++ after) = recordsOf before ++ recordsOf after := List.filterMap_append

theorem run_traced {records : List Record} (named : StoredAsNamed records) {s : Session}
    (traced : s.Traced records) {steps : List Step} (inside : recordsOf steps ⊆ records) :
    (s.run steps).Traced records := by
  induction steps generalizing s with
  | nil => exact traced
  | cons e rest ih =>
    obtain ⟨first, later⟩ := filterMap_cons_subset inside
    exact ih (step_traced named traced first) later

theorem clear_waits {records : List Record} (consistent : Consistent records) {s : Session}
    (traced : s.Traced records) {i : Nat} {fileName : String} {data : Bytes}
    (waits : s.Waits fileName data) : (s.clear i).Waits fileName data ∨
      ∃ snapshot, s.flushes[i]? = some ⟨snapshot, .written⟩ ∧
        ∃ k ∈ snapshot, k.fileName = fileName ∧ k.data = some data := by
  rcases clear_cases i s with same | ⟨snapshot, found, cleared⟩
  · rw [same]
    exact Or.inl waits
  · obtain ⟨k, stands, present⟩ := waits
    by_cases covered : Buffer.covers snapshot fileName k = true
    · refine Or.inr ⟨snapshot, found, ?_⟩
      obtain ⟨w, inside, named, same⟩ := Buffer.covers_iff.mp covered
      obtain ⟨pending, known⟩ := traced.snapshots _ (List.mem_of_getElem? found) w inside
      obtain ⟨other, holds⟩ := Option.isSome_iff_exists.mp pending
      obtain ⟨a, ha, nameA, marshalA⟩ := known other holds
      obtain ⟨b, hb, nameB, marshalB⟩ := traced.kept _ (mem_of_lookup stands) data present
      have keyed : fileName = k.fileName := traced.sound.named _ (mem_of_lookup stands)
      have fingerprints : k.fingerprint = w.fingerprint := by
        simp only [Kept.sameCapture, Bool.and_eq_true, decide_eq_true_eq] at same
        exact same.2
      have bytes : other = data := consistent a ha b hb other data w.fingerprint
        (by rw [nameA, nameB, named, keyed]) marshalA (fingerprints ▸ marshalB)
      exact ⟨w, inside, named, bytes ▸ holds⟩
    · refine Or.inl ⟨k, ?_, present⟩
      rw [cleared]
      have after := Buffer.get?_clear traced.sound snapshot fileName
      rw [stands, Option.map_some, Buffer.cleared, if_neg covered] at after
      exact after

/-- The bytes of a record wait under its file name, or they are in an archive. -/
def Safe (s : Session) (fileName : String) (data : Bytes) : Prop :=
  s.Waits fileName data ∨ s.Archived fileName data

theorem accepted_waits {s : Session} {now : Instant} {r : Record}
    (accepted : s.accepts now r = true) :
    ∃ data fingerprint, r.marshal = .ok (data, fingerprint) ∧
      (s.record now r).Waits r.fileName data := by
  rcases Buffer.record_cases s.recorder.bounds now r s.buffer with
    ⟨refused, _⟩ | ⟨data, fingerprint, marshalled, _, _, taken⟩
  · exact absurd accepted (by simp [accepts, refused])
  · refine ⟨data, fingerprint, marshalled,
      ⟨r.fileName, fingerprint, r.capturedAt.getD now, some data⟩, ?_, rfl⟩
    rw [buffer_record, taken]
    exact lookup_insert_self _ _ _

theorem record_waits {s : Session} {fileName : String} {data : Bytes}
    (waits : s.Waits fileName data) (now : Instant) (r : Record) :
    (s.record now r).Waits fileName data ∨ r.fileName = fileName ∧ s.accepts now r = true := by
  rcases Buffer.record_cases s.recorder.bounds now r s.buffer with
    ⟨_, same⟩ | ⟨fresh, fingerprint, _, accepted, _, taken⟩
  · left
    rw [Waits, buffer_record, same]
    exact waits
  · by_cases here : r.fileName = fileName
    · exact Or.inr ⟨here, accepted⟩
    · left
      obtain ⟨k, stands, present⟩ := waits
      refine ⟨k, ?_, present⟩
      rw [buffer_record, taken]
      exact (lookup_insert_of_ne (Ne.symm here) _ _).trans stands

theorem step_archives (s : Session) (e : Step) : s.archives ⊆ (s.step e).archives := by
  cases e with
  | record now r => exact List.Subset.refl _
  | snapshot => exact List.Subset.refl _
  | write i w now =>
    rcases write_cases i w now s with same | ⟨_, _, _, ended | ⟨_, _, done⟩⟩
    · exact (congrArg archives same) ▸ List.Subset.refl _
    · exact (congrArg archives ended) ▸ List.Subset.refl _
    · exact (congrArg archives done) ▸ List.subset_append_left _ _
  | clear i =>
    rcases clear_cases i s with same | ⟨_, _, cleared⟩
    · exact (congrArg archives same) ▸ List.Subset.refl _
    · exact (congrArg archives cleared) ▸ List.Subset.refl _
  | outside storage => exact List.Subset.refl _

theorem step_safe {records : List Record} (consistent : Consistent records) {s : Session}
    (traced : s.Traced records) {fileName : String} {data : Bytes}
    (safe : s.Safe fileName data) (e : Step) :
    (s.step e).Safe fileName data ∨
      ∃ now r, e = .record now r ∧ r.fileName = fileName ∧ s.accepts now r = true := by
  rcases safe with waits | archived
  · cases e with
    | record now r =>
      rcases record_waits waits now r with still | replaced
      · exact Or.inl (Or.inl still)
      · exact Or.inr ⟨now, r, rfl, replaced⟩
    | snapshot => exact Or.inl (Or.inl waits)
    | write i w now =>
      left; left
      change (s.write i w now).Waits fileName data
      rw [Waits, buffer_write]
      exact waits
    | clear i =>
      rcases clear_waits consistent traced (i := i) waits with still |
        ⟨snapshot, found, k, inside, rfl, present⟩
      · exact Or.inl (Or.inl still)
      · have archived := traced.written _ (List.mem_of_getElem? found) rfl k inside data present
        exact Or.inl (Or.inr (archived.more (step_archives s (.clear i))))
    | outside storage => exact Or.inl (Or.inl waits)
  · exact Or.inl (Or.inr (archived.more (step_archives s e)))

theorem run_safe {records : List Record} (consistent : Consistent records)
    (named : StoredAsNamed records) {s : Session} (traced : s.Traced records)
    {fileName : String} {data : Bytes} (safe : s.Safe fileName data) {steps : List Step}
    (inside : recordsOf steps ⊆ records) :
    (s.run steps).Safe fileName data ∨ s.Replaced steps fileName := by
  induction steps generalizing s with
  | nil => exact Or.inl safe
  | cons e rest ih =>
    obtain ⟨first, later⟩ := filterMap_cons_subset inside
    rcases step_safe consistent traced safe e with still | ⟨now, r, rfl, here, accepted⟩
    · rcases ih (step_traced named traced first) still later with kept |
        ⟨mid, now, r, after, split, here, accepted⟩
      · exact Or.inl kept
      · exact Or.inr ⟨e :: mid, now, r, after, by rw [split]; rfl, here, accepted⟩
    · exact Or.inr ⟨[], now, r, rest, rfl, here, accepted⟩

/-- A record that is accepted after some steps of a run has bytes, and after all further steps these
wait under its file name, or a later record was accepted under that name, or they are in an archive
that was completed. A clearing drops nothing that its flush did not write, so what replaced a record
since the snapshot stays. -/
theorem accepted_record_never_lost (bounds : Bounds) (interval : Nat) (storage : Option Directory)
    (before after : List Step) (now : Instant) (r : Record)
    (consistent : Consistent (recordsOf (before ++ .record now r :: after)))
    (named : StoredAsNamed (recordsOf (before ++ .record now r :: after)))
    (accepted : ((start bounds interval storage).run before).accepts now r = true) :
    let taken := (start bounds interval storage).run (before ++ [.record now r])
    let s := (start bounds interval storage).run (before ++ .record now r :: after)
    (∃ data fingerprint, r.marshal = .ok (data, fingerprint) ∧
      (s.Waits r.fileName data ∨ taken.Replaced after r.fileName ∨ s.Archived r.fileName data)) ∧
    ∀ i snapshot, s.flushes[i]? = some ⟨snapshot, .written⟩ →
      ∀ fileName data, s.Waits fileName data →
      (∀ k ∈ snapshot, k.fileName = fileName → k.data ≠ some data) →
        (s.clear i).Waits fileName data := by
  intro taken s
  have split : before ++ .record now r :: after = before ++ [.record now r] ++ after :=
    List.append_cons _ _ _
  have onwards : s = taken.run after := by rw [← run_append, ← split]
  have all : ∀ steps, recordsOf steps ⊆ recordsOf (before ++ .record now r :: after) →
      ((start bounds interval storage).run steps).Traced
        (recordsOf (before ++ .record now r :: after)) :=
    fun steps inside => run_traced named (start_traced _ bounds interval storage) inside
  constructor
  · obtain ⟨data, fingerprint, marshalled, waits⟩ := accepted_waits accepted
    refine ⟨data, fingerprint, marshalled, ?_⟩
    have here : taken = ((start bounds interval storage).run before).record now r :=
      run_append _ _ _
    have traced : taken.Traced (recordsOf (before ++ .record now r :: after)) := by
      refine all _ ?_
      rw [split, recordsOf_append _ after]
      exact List.subset_append_left _ _
    have later : recordsOf after ⊆ recordsOf (before ++ .record now r :: after) := by
      rw [split, recordsOf_append _ after]
      exact List.subset_append_right _ _
    rcases run_safe consistent named traced (Or.inl (here ▸ waits)) later with safe | replaced
    · rw [onwards]
      exact safe.imp_right Or.inr
    · exact Or.inr (Or.inl replaced)
  · intro i snapshot found fileName data waits fresh
    rcases clear_waits consistent (all _ (List.Subset.refl _)) (i := i) waits with
      still | ⟨other, found', k, inside, here, present⟩
    · exact still
    · have same : snapshot = other := by
        have := found.symm.trans found'
        simp only [Option.some.injEq, Flush.mk.injEq, and_true] at this
        exact this
      exact absurd present (fresh k (same ▸ inside) here)

/-- Two contents of one record. The second one comes while a flush is under way that has the
first. -/
def earlierCapture : Record := ⟨"version", .raw [1, 2], some ⟨10, 0⟩, "a"⟩

def laterCapture : Record := ⟨"version", .raw [3], some ⟨20, 0⟩, "b"⟩

def flushUnderWay : List Step := [.record ⟨10, 0⟩ earlierCapture, .snapshot]

def flushConcluded : List Step := [.write 0 (.calm false) ⟨30, 0⟩, .clear 0]

theorem replacement_survives_flush :
    let steps := flushUnderWay ++ .record ⟨20, 0⟩ laterCapture :: flushConcluded
    let begun := start ⟨100, 100⟩ 60 (some .empty)
    Consistent (recordsOf steps) ∧ StoredAsNamed (recordsOf steps) ∧
      (begun.run flushUnderWay).accepts ⟨20, 0⟩ laterCapture = true ∧
      ∃ data fingerprint, laterCapture.marshal = .ok (data, fingerprint) ∧
        ((begun.run steps).Waits laterCapture.fileName data ∨
          (begun.run (flushUnderWay ++ [.record ⟨20, 0⟩ laterCapture])).Replaced flushConcluded
            laterCapture.fileName ∨
          (begun.run steps).Archived laterCapture.fileName data) := by
  intro steps begun
  have consistent : Consistent (recordsOf steps) := by
    intro a ha b hb data other fingerprint _ marshalA marshalB
    have members : recordsOf steps = [earlierCapture, laterCapture] := rfl
    have first : earlierCapture.marshal = .ok ([1, 2], "a") := by decide
    have second : laterCapture.marshal = .ok ([3], "b") := by decide
    rw [members, List.mem_pair] at ha hb
    rcases ha with rfl | rfl <;> rcases hb with rfl | rfl <;> simp_all
  have named : StoredAsNamed (recordsOf steps) := by
    intro r member name stored
    have same : r.fileName = "version" := by
      have members : recordsOf steps = [earlierCapture, laterCapture] := rfl
      rw [members, List.mem_pair] at member
      rcases member with rfl | rfl <;> rfl
    rw [same] at stored ⊢
    have asNamed : EntryName.stored "version" = .ok "version" := by decide
    exact (Except.ok.inj (asNamed.symm.trans stored)).symm
  have accepted : (begun.run flushUnderWay).accepts ⟨20, 0⟩ laterCapture = true := by decide
  exact ⟨consistent, named, accepted,
    (accepted_record_never_lost ⟨100, 100⟩ 60 (some .empty) flushUnderWay flushConcluded
        ⟨20, 0⟩ laterCapture
      consistent named accepted).1⟩

end Session

end ClusterSurvey.Recording
