import ClusterSurvey.Proofs.Recording.Acceptance
import ClusterSurvey.Proofs.Recording.Session
import Mathlib.Data.List.Nodup

/-!
A recorder whose calls come one after the other. A journal numbers the calls, logs the records that
were accepted and tells for each entry of an archive which of them its bytes come from. An accepted
record is in no two entries, and in one as soon as a flush succeeds before another record replaces
it. What carries the induction is that no bytes that still wait are in an entry: a flush that
succeeds takes all that waits and settles it.
-/
namespace ClusterSurvey.Recording
open Keyed

inductive Call where
  | record (now : Instant) (r : Record)
  | flush (w : Circumstances) (now : Instant)
  | outside (storage : Option Directory)

structure Written where
  origin : Option Acceptance
  entry : ArchiveEntry

def Written.call? (e : Written) : Option Nat := e.origin.map (·.call)

/-- The entries of an archive of a snapshot, each with the record that was accepted last under the
file name of its place in the snapshot. -/
def traced (log : List Acceptance) : List Kept → List ArchiveEntry → List Written
  | _, [] => []
  | [], e :: es => ⟨none, e⟩ :: traced log [] es
  | k :: ks, e :: es => ⟨latest? log k.fileName, e⟩ :: traced log ks es

structure Written.HoldsBytesOf (e : Written) (a : Acceptance) : Prop where
  origin : e.origin = some a
  name : EntryName.stored a.record.fileName = .ok e.entry.name
  bytes : a.record.marshal = .ok (e.entry.data, a.record.mark)

theorem Written.HoldsBytesOf.call? {e : Written} {a : Acceptance} (holds : e.HoldsBytesOf a) :
    e.call? = some a.call := by
  rw [Written.call?, holds.origin]
  rfl

theorem traced_origins (log : List Acceptance) {ks : List Kept} {es : List ArchiveEntry}
    (pairs : List.Forall₂ StandsFor es ks) :
    (traced log ks es).map Written.origin = ks.map fun k => latest? log k.fileName := by
  induction pairs with
  | nil => rfl
  | cons stands rest ih => rw [traced, List.map_cons, List.map_cons, ih]

theorem traced_holds {log : List Acceptance} {ks : List Kept} {es : List ArchiveEntry}
    (pairs : List.Forall₂ StandsFor es ks)
    (known : ∀ k ∈ ks, ∃ a, latest? log k.fileName = some a ∧ k.ComesFrom a) :
    ∀ e ∈ traced log ks es, ∃ a ∈ log, e.HoldsBytesOf a := by
  induction pairs with
  | nil => simp [traced]
  | @cons entry k es ks stands rest ih =>
    obtain ⟨first, later⟩ := List.forall_mem_cons.mp known
    intro e member
    rcases List.mem_cons.mp member with here | there
    · obtain ⟨a, latest, comes⟩ := first
      refine ⟨a, (mem_of_latest? latest).1, ?_, ?_, ?_⟩
      · rw [here]
        exact latest
      · rw [here, comes.named]
        exact stands.name
      · rw [here, comes.bytes entry.data stands.data]
        exact comes.readable
    · exact ih later e there

/-- A flush ends without an archive and leaves all that waits, or it reports an archive of all that
waits and settles it. -/
theorem Recorder.flush_cases (w : Circumstances) (now : Instant) (s : Recorder) :
    ((∀ name, (s.flush w now).1 ≠ .ok (some name)) ∧ (s.flush w now).2.buffer = s.buffer) ∨
    ∃ name entries, (s.flush w now).1 = .ok (some name) ∧
      entriesOf w 0 s.buffer.pending = .ok entries ∧
      (s.flush w now).2.archive? name = some entries ∧
      (s.flush w now).2.buffer = s.buffer.clear s.buffer.pending := by
  rcases write_cases w now s.buffer.pending s with ⟨result, storage, outcome, none⟩ |
    ⟨name, d, entries, planned, outcome⟩
  · left
    have same : s.flush w now = (result, { s with storage }) := by
      unfold flush
      dsimp only
      rw [outcome]
      split
      · rename_i name recorder made
        exact absurd (Prod.mk.inj made).1 (none name)
      · rename_i made
        exact made.symm
    rw [same]
    exact ⟨none, rfl⟩
  · right
    have made : s.flush w now = (.ok (some name),
        clear s.buffer.pending
          { s with storage := some (d.set name (.file (.archive entries) now)) }) := by
      unfold flush
      dsimp only
      rw [outcome]
    rw [made]
    exact ⟨name, entries, rfl, planned, archive?_set s d name entries now, rfl⟩

/-- A recorder with the number of its calls, the records that were accepted, the last one first, and
the entries of all archives that it wrote. -/
structure Journal where
  recorder : Recorder
  calls : Nat
  log : List Acceptance
  written : List Written

namespace Journal

def start (bounds : Bounds) (interval : Nat) (storage : Option Directory) : Journal :=
  ⟨⟨bounds, interval, .empty, storage, false, false⟩, 0, [], []⟩

def buffer (j : Journal) : Buffer := j.recorder.buffer

def reception (j : Journal) (now : Instant) (r : Record) : Reception :=
  (j.buffer.record j.recorder.bounds now r).1

def accepts (j : Journal) (now : Instant) (r : Record) : Bool := (j.reception now r).isAccepted

/-- Whether a flush would write an archive now. -/
def Flushes (j : Journal) (w : Circumstances) (now : Instant) : Prop :=
  ∃ name, (j.recorder.flush w now).1 = .ok (some name)

def entriesReported (result : Except GatherError (Option String)) (after : Recorder) :
    List ArchiveEntry :=
  match result with
  | .ok (some name) => (after.archive? name).getD []
  | _ => []

def call (j : Journal) : Call → Journal
  | .record now r =>
    ⟨(j.recorder.record now r).2, j.calls + 1, noted j.calls r (j.reception now r) j.log, j.written⟩
  | .flush w now =>
    let (result, after) := j.recorder.flush w now
    ⟨after, j.calls + 1, j.log,
      j.written ++ traced j.log j.buffer.pending (entriesReported result after)⟩
  | .outside storage => ⟨{ j.recorder with storage }, j.calls + 1, j.log, j.written⟩

def run (j : Journal) (calls : List Call) : Journal := calls.foldl call j

def Replaced (j : Journal) (calls : List Call) (fileName : String) : Prop :=
  ∃ before now r after, calls = before ++ .record now r :: after ∧ r.fileName = fileName ∧
    (j.run before).accepts now r = true

/-- The number of entries with the bytes of the record that a call brought. -/
def timesWritten (j : Journal) (call : Nat) : Nat := j.written.countP fun e => e.call? = some call

theorem run_append (j : Journal) (before after : List Call) :
    j.run (before ++ after) = (j.run before).run after := List.foldl_append

theorem run_cons (j : Journal) (c : Call) (rest : List Call) :
    j.run (c :: rest) = (j.call c).run rest := rfl

theorem calls_call (j : Journal) (c : Call) : (j.call c).calls = j.calls + 1 := by
  cases c with
  | record now r => rfl
  | flush w now => rfl
  | outside storage => rfl

theorem calls_run (j : Journal) (calls : List Call) :
    (j.run calls).calls = j.calls + calls.length := by
  induction calls generalizing j with
  | nil => rfl
  | cons c rest ih =>
    rw [run_cons, ih, calls_call, List.length_cons]
    omega

/-- Each kept record has its acceptance, the accepted calls are numbered in their order, and each
entry has the bytes of an accepted record that no other entry has and that does not wait any
more. -/
structure Exact (j : Journal) : Prop where
  authored : Buffer.Authored j.log j.buffer
  before : ∀ a ∈ j.log, a.call < j.calls
  numbered : (j.log.map (·.call)).Nodup
  holds : ∀ e ∈ j.written, ∃ a ∈ j.log, e.HoldsBytesOf a
  once : (j.written.map Written.call?).Nodup
  fresh : ∀ k ∈ j.buffer.pending, ∀ a, latest? j.log k.fileName = some a →
    ∀ e ∈ j.written, e.call? ≠ some a.call

theorem start_exact (bounds : Bounds) (interval : Nat) (storage : Option Directory) :
    (start bounds interval storage).Exact where
  authored := Buffer.empty_authored
  before := by simp [start]
  numbered := List.nodup_nil
  holds := by simp [start]
  once := List.nodup_nil
  fresh := by simp [start]

theorem flush_cases (w : Circumstances) (now : Instant) (j : Journal) :
    (¬ j.Flushes w now ∧ (j.call (.flush w now)).buffer = j.buffer ∧
      (j.call (.flush w now)).written = j.written) ∨
    ∃ entries, j.Flushes w now ∧ entriesOf w 0 j.buffer.pending = .ok entries ∧
      (j.call (.flush w now)).buffer = j.buffer.clear j.buffer.pending ∧
      (j.call (.flush w now)).written = j.written ++ traced j.log j.buffer.pending entries := by
  have step : j.call (.flush w now) = ⟨(j.recorder.flush w now).2, j.calls + 1, j.log, j.written ++
      traced j.log j.buffer.pending
        (entriesReported (j.recorder.flush w now).1 (j.recorder.flush w now).2)⟩ := rfl
  rw [step]
  rcases Recorder.flush_cases w now j.recorder with ⟨none, same⟩ |
    ⟨name, entries, outcome, planned, there, cleared⟩
  · left
    have nothing : entriesReported (j.recorder.flush w now).1 (j.recorder.flush w now).2 = [] := by
      unfold entriesReported
      split
      · rename_i name reported
        exact absurd reported (none name)
      · rfl
    refine ⟨fun ⟨name, reported⟩ => none name reported, same, ?_⟩
    rw [nothing, traced, List.append_nil]
  · refine Or.inr ⟨entries, ⟨name, outcome⟩, planned, cleared, ?_⟩
    rw [outcome, entriesReported, there, Option.getD_some]

theorem pairs_of_entries {w : Circumstances} {b : Buffer} {entries : List ArchiveEntry}
    (planned : entriesOf w 0 b.pending = .ok entries) :
    List.Forall₂ StandsFor entries b.pending := by
  have waiting : ∀ k ∈ b.pending, k.isPending = true :=
    fun k member => (List.mem_filter.mp member).2
  have pairs := entriesOf_ok planned
  rwa [List.filter_eq_self.mpr waiting] at pairs

theorem record_exact {j : Journal} (exact : j.Exact) (now : Instant) (r : Record) :
    (j.call (.record now r)).Exact := by
  have authored := Buffer.record_authored exact.authored j.recorder.bounds now j.calls r
  rcases Buffer.record_cases j.recorder.bounds now r j.buffer with
    ⟨refused, same⟩ | ⟨data, fingerprint, _, accepted, _, taken⟩
  · have log : (j.call (.record now r)).log = j.log := noted_of_refused refused _ _ _
    refine ⟨authored, ?_, log ▸ exact.numbered, log ▸ exact.holds, exact.once, ?_⟩
    · rw [log]
      exact fun a member => Nat.lt_succ_of_lt (exact.before a member)
    · have buffer : (j.call (.record now r)).buffer = j.buffer := same
      rw [log, buffer]
      exact exact.fresh
  · have log : (j.call (.record now r)).log = ⟨j.calls, r⟩ :: j.log :=
      noted_of_accepted accepted _ _ _
    have older : ∀ e ∈ j.written, ∃ n < j.calls, e.call? = some n := by
      intro e member
      obtain ⟨a, inside, stands⟩ := exact.holds e member
      exact ⟨a.call, exact.before a inside, stands.call?⟩
    refine ⟨authored, ?_, ?_, ?_, exact.once, ?_⟩
    · rw [log]
      refine List.forall_mem_cons.mpr ⟨Nat.lt_succ_self _, ?_⟩
      exact fun a member => Nat.lt_succ_of_lt (exact.before a member)
    · rw [log, List.map_cons]
      refine List.nodup_cons.mpr ⟨?_, exact.numbered⟩
      intro repeated
      obtain ⟨a, member, same⟩ := List.mem_map.mp repeated
      exact absurd same (Nat.ne_of_lt (exact.before a member))
    · intro e member
      obtain ⟨a, inside, stands⟩ := exact.holds e member
      exact ⟨a, log ▸ List.mem_cons_of_mem _ inside, stands⟩
    · intro k waits a latest e member
      obtain ⟨found, pending⟩ := (Buffer.mem_pending_iff authored.sound).mp waits
      rw [log, latest?_cons] at latest
      split at latest
      · obtain ⟨n, less, call⟩ := older e member
        rw [← Option.some.inj latest, call]
        exact fun same => absurd (Option.some.inj same) (Nat.ne_of_lt less)
      · rename_i other
        rw [taken, Buffer.get?, lookup_insert_of_ne (Ne.symm other)] at found
        exact exact.fresh k ((Buffer.mem_pending_iff exact.authored.sound).mpr ⟨found, pending⟩)
          a latest e member

theorem flush_exact {j : Journal} (exact : j.Exact) (w : Circumstances) (now : Instant) :
    (j.call (.flush w now)).Exact := by
  have before : ∀ a ∈ j.log, a.call < j.calls + 1 :=
    fun a member => Nat.lt_succ_of_lt (exact.before a member)
  rcases flush_cases w now j with ⟨_, same, nothing⟩ | ⟨entries, _, planned, cleared, more⟩
  · exact ⟨same ▸ exact.authored, before, exact.numbered, nothing ▸ exact.holds,
      nothing ▸ exact.once,
      by rw [same, nothing]; exact exact.fresh⟩
  · have pairs := pairs_of_entries planned
    have sound := exact.authored.sound
    have known : ∀ k ∈ j.buffer.pending, ∃ a, latest? j.log k.fileName = some a ∧ k.ComesFrom a :=
      fun k waits => exact.authored.latest_of_kept ((Buffer.mem_pending_iff sound).mp waits).1
    refine ⟨cleared ▸ Buffer.clear_authored exact.authored _, before, exact.numbered, ?_, ?_, ?_⟩
    · rw [more]
      intro e member
      rcases List.mem_append.mp member with old | new
      · exact exact.holds e old
      · exact traced_holds pairs known e new
    · have calls : (traced j.log j.buffer.pending entries).map Written.call? =
          j.buffer.pending.map fun k => (latest? j.log k.fileName).map (·.call) := by
        have origins := congrArg (List.map (Option.map (·.call))) (traced_origins j.log pairs)
        rwa [List.map_map, List.map_map] at origins
      rw [more, List.map_append, calls]
      refine List.nodup_append.mpr ⟨exact.once, ?_, ?_⟩
      · refine List.pairwise_map.mpr ?_
        refine (List.pairwise_map.mp (Buffer.pending_ascending sound)).imp_of_mem ?_
        intro k l hk hl less same
        obtain ⟨a, latestA, comesA⟩ := known k hk
        obtain ⟨b, latestB, comesB⟩ := known l hl
        rw [latestA, latestB] at same
        have one : a = b := List.inj_on_of_nodup_map exact.numbered (mem_of_latest? latestA).1
          (mem_of_latest? latestB).1 (Option.some.inj same)
        rw [← comesA.named, ← comesB.named, one] at less
        exact lt_irrefl _ less
      · intro x old y new same
        obtain ⟨e, member, rfl⟩ := List.mem_map.mp old
        obtain ⟨k, waits, rfl⟩ := List.mem_map.mp new
        obtain ⟨a, latest, _⟩ := known k waits
        rw [latest] at same
        exact exact.fresh k waits a latest e member same
    · have settled : (j.call (.flush w now)).buffer.pending = [] := by
        rw [cleared, Buffer.clear_pending sound, Buffer.pending_settled]
      rw [settled]
      simp

theorem call_exact {j : Journal} (exact : j.Exact) (c : Call) : (j.call c).Exact := by
  cases c with
  | record now r => exact record_exact exact now r
  | flush w now => exact flush_exact exact w now
  | outside storage =>
    exact ⟨exact.authored, fun a member => Nat.lt_succ_of_lt (exact.before a member),
      exact.numbered, exact.holds,
      exact.once, exact.fresh⟩

theorem run_exact {j : Journal} (exact : j.Exact) (calls : List Call) : (j.run calls).Exact := by
  induction calls generalizing j with
  | nil => exact exact
  | cons c rest ih => exact ih (call_exact exact c)

structure Awaits (j : Journal) (a : Acceptance) : Prop where
  latest : latest? j.log a.record.fileName = some a
  waits : ∃ k, j.buffer.get? a.record.fileName = some k ∧ k.isPending = true

def IsWritten (j : Journal) (a : Acceptance) : Prop := ∃ e ∈ j.written, e.origin = some a

theorem written_call (j : Journal) (c : Call) : j.written ⊆ (j.call c).written := by
  cases c with
  | record now r => exact List.Subset.refl _
  | flush w now => exact List.subset_append_left _ _
  | outside storage => exact List.Subset.refl _

theorem IsWritten.more {j : Journal} {a : Acceptance} (h : j.IsWritten a) (c : Call) :
    (j.call c).IsWritten a := by
  obtain ⟨e, member, same⟩ := h
  exact ⟨e, written_call j c member, same⟩

theorem IsWritten.run {j : Journal} {a : Acceptance} (h : j.IsWritten a) (calls : List Call) :
    (j.run calls).IsWritten a := by
  induction calls generalizing j with
  | nil => exact h
  | cons c rest ih => exact ih (h.more c)

theorem accepted_awaits {j : Journal} {now : Instant} {r : Record}
    (accepted : j.accepts now r = true) :
    (j.call (.record now r)).Awaits ⟨j.calls, r⟩ := by
  have log : (j.call (.record now r)).log = ⟨j.calls, r⟩ :: j.log :=
    noted_of_accepted accepted _ _ _
  refine ⟨by rw [log, latest?_cons, if_pos rfl], ?_⟩
  rcases Buffer.record_cases j.recorder.bounds now r j.buffer with ⟨refused, _⟩ |
    ⟨data, fingerprint, _, _, _, taken⟩
  · exact absurd (accepted.symm.trans refused) (by simp)
  · refine ⟨⟨r.fileName, fingerprint, r.capturedAt.getD now, some data⟩, ?_, rfl⟩
    have buffer : (j.call (.record now r)).buffer = _ := taken
    rw [buffer]
    exact lookup_insert_self _ _ _

theorem Awaits.written {j : Journal} (exact : j.Exact) {a : Acceptance} (awaits : j.Awaits a)
    {w : Circumstances} {now : Instant} (succeeds : j.Flushes w now) :
    (j.call (.flush w now)).IsWritten a := by
  rcases flush_cases w now j with ⟨fails, _⟩ | ⟨entries, _, planned, _, more⟩
  · exact absurd succeeds fails
  · obtain ⟨k, found, pending⟩ := awaits.waits
    have sound := exact.authored.sound
    have named : a.record.fileName = k.fileName := sound.named _ (mem_of_lookup found)
    have waits : k ∈ j.buffer.pending := (Buffer.mem_pending_iff sound).mpr ⟨named ▸ found, pending⟩
    have inside : some a ∈ (traced j.log j.buffer.pending entries).map Written.origin := by
      rw [traced_origins j.log (pairs_of_entries planned)]
      exact List.mem_map.mpr ⟨k, waits, named ▸ awaits.latest⟩
    obtain ⟨e, member, origin⟩ := List.mem_map.mp inside
    exact ⟨e, more ▸ List.mem_append_right _ member, origin⟩

theorem Awaits.call {j : Journal} (exact : j.Exact) {a : Acceptance}
    (awaits : j.Awaits a) {c : Call}
    (kept : ∀ now r, c = .record now r → r.fileName = a.record.fileName → j.accepts now r = false) :
    (j.call c).Awaits a ∨ (j.call c).IsWritten a := by
  cases c with
  | record now r =>
    left
    rcases Buffer.record_cases j.recorder.bounds now r j.buffer with
      ⟨refused, same⟩ | ⟨data, fingerprint, _, accepted, _, taken⟩
    · have log : (j.call (.record now r)).log = j.log := noted_of_refused refused _ _ _
      have buffer : (j.call (.record now r)).buffer = j.buffer := same
      exact ⟨by rw [log]; exact awaits.latest, by rw [buffer]; exact awaits.waits⟩
    · have other : r.fileName ≠ a.record.fileName := by
        intro here
        exact absurd ((kept now r rfl here).symm.trans accepted) (by simp)
      have log : (j.call (.record now r)).log = ⟨j.calls, r⟩ :: j.log :=
        noted_of_accepted accepted _ _ _
      have buffer : (j.call (.record now r)).buffer = _ := taken
      refine ⟨by rw [log, latest?_cons, if_neg other]; exact awaits.latest, ?_⟩
      rw [buffer, Buffer.get?, lookup_insert_of_ne (Ne.symm other)]
      exact awaits.waits
  | flush w now =>
    rcases flush_cases w now j with ⟨_, same, _⟩ | ⟨_, succeeds, _⟩
    · exact Or.inl ⟨awaits.latest, by rw [same]; exact awaits.waits⟩
    · exact Or.inr (awaits.written exact succeeds)
  | outside storage => exact Or.inl ⟨awaits.latest, awaits.waits⟩

theorem Awaits.run {j : Journal} (exact : j.Exact) {a : Acceptance} (awaits : j.Awaits a)
    {calls : List Call} (kept : ¬ j.Replaced calls a.record.fileName) :
    (j.run calls).Awaits a ∨ (j.run calls).IsWritten a := by
  induction calls generalizing j with
  | nil => exact Or.inl awaits
  | cons c rest ih =>
    have first : ∀ now r, c = .record now r → r.fileName = a.record.fileName →
        j.accepts now r = false := by
      rintro now r rfl named
      by_contra accepted
      exact kept ⟨[], now, r, rest, rfl, named, Bool.not_eq_false _ ▸ accepted⟩
    have later : ¬ (j.call c).Replaced rest a.record.fileName := by
      rintro ⟨before, now, r, after, split, named, accepted⟩
      exact kept ⟨c :: before, now, r, after, by rw [split]; rfl, named, accepted⟩
    rcases awaits.call exact first with still | written
    · exact ih (call_exact exact c) still later
    · exact Or.inr (written.run rest)

theorem timesWritten_eq_count (j : Journal) (call : Nat) :
    j.timesWritten call = (j.written.map Written.call?).count (some call) := by
  rw [timesWritten, List.count_eq_countP, List.countP_map]
  refine List.countP_congr fun e _ => ?_
  simp

theorem timesWritten_le_one {j : Journal} (exact : j.Exact) (call : Nat) :
    j.timesWritten call ≤ 1 := by
  rw [timesWritten_eq_count]
  exact List.nodup_iff_count_le_one.mp exact.once _

theorem timesWritten_eq_one {j : Journal} (exact : j.Exact) {a : Acceptance}
    (written : j.IsWritten a) :
    j.timesWritten a.call = 1 := by
  obtain ⟨e, member, origin⟩ := written
  have call : e.call? = some a.call := congrArg (Option.map Acceptance.call) origin
  have some : 0 < j.timesWritten a.call := List.countP_pos_iff.mpr ⟨e, member, by simp [call]⟩
  have bound := timesWritten_le_one exact a.call
  omega

theorem log_call {j : Journal} {c : Call} {a : Acceptance} (member : a ∈ (j.call c).log) :
    a ∈ j.log ∨ a.call = j.calls := by
  cases c with
  | record now r =>
    simp only [call, noted] at member
    split at member
    · rcases List.mem_cons.mp member with here | old
      · exact Or.inr (congrArg Acceptance.call here)
      · exact Or.inl old
    · exact Or.inl member
  | flush w now => exact Or.inl member
  | outside storage => exact Or.inl member

theorem log_run {j : Journal} {calls : List Call} {a : Acceptance}
    (member : a ∈ (j.run calls).log) :
    a ∈ j.log ∨ j.calls ≤ a.call := by
  induction calls generalizing j with
  | nil => exact Or.inl member
  | cons c rest ih =>
    rcases ih member with old | later
    · rcases log_call old with older | here
      · exact Or.inl older
      · exact Or.inr (Nat.le_of_eq here.symm)
    · rw [calls_call] at later
      exact Or.inr (Nat.le_of_succ_le later)

theorem timesWritten_of_refused {j : Journal} (exact : j.Exact) {now : Instant} {r : Record}
    (refused : j.accepts now r = false) (after : List Call) :
    ((j.call (.record now r)).run after).timesWritten j.calls = 0 := by
  refine List.countP_eq_zero.mpr fun e member => ?_
  obtain ⟨a, inside, holds⟩ := (run_exact (record_exact exact now r) after).holds e member
  have other : a.call ≠ j.calls := by
    have log : (j.call (.record now r)).log = j.log := noted_of_refused refused _ _ _
    rcases log_run inside with old | later
    · rw [log] at old
      exact Nat.ne_of_lt (exact.before a old)
    · rw [calls_call] at later
      omega
  simpa [holds.call?] using other

theorem unchanged_of_mark {j : Journal} (exact : j.Exact) {r : Record} {a : Acceptance}
    (latest : latest? j.log r.fileName = some a) (same : a.record.mark = r.mark)
    (marked : r.mark ≠ "") (now : Instant) :
    j.reception now r = .unchanged ∧ (j.call (.record now r)).recorder = j.recorder := by
  obtain ⟨k, found, comes⟩ := exact.authored.kept_of_latest latest
  have passed : j.buffer.record j.recorder.bounds now r = (.unchanged, j.buffer) := by
    unfold Buffer.record
    cases marshalled : r.marshal with
    | error cause => exact absurd (by simp [Record.mark, marshalled]) marked
    | ok content =>
      obtain ⟨data, fingerprint⟩ := content
      have mark : r.mark = fingerprint := by simp [Record.mark, marshalled]
      rw [mark] at same marked
      have known : (!fingerprint.isEmpty
          && (j.buffer.get? r.fileName).any (·.fingerprint = fingerprint)) = true := by
        simp [found, comes.marked, same, marked]
      simp only [known, ↓reduceIte]
  have buffer : j.recorder.buffer.record j.recorder.bounds now r =
      (.unchanged, j.recorder.buffer) := passed
  refine ⟨congrArg Prod.fst passed, ?_⟩
  simp [call, Recorder.record, buffer, Reception.asksForFlush]

/-- Over all archives, each entry has the bytes of one accepted record under its stored name, and no
record is in two entries. A record is in one entry when a flush succeeds after it was accepted and
no other one was accepted under its file name in between, however many flushes failed or found their
name taken until then: these leave all that waits as it is. A record with the fingerprint of the one
that was accepted last under its file name changes nothing and is never in an entry. -/
theorem accepted_record_written_once (bounds : Bounds) (interval : Nat) (storage : Option Directory)
    (calls : List Call) :
    let begun := start bounds interval storage
    let j := begun.run calls
    (∀ e ∈ j.written, ∃ a ∈ j.log, e.HoldsBytesOf a) ∧
    (∀ n, j.timesWritten n ≤ 1) ∧
    (∀ before now r middle w t after, calls = before
        ++ .record now r :: (middle ++ .flush w t :: after) →
      (begun.run before).accepts now r = true →
      ¬ (begun.run (before ++ [.record now r])).Replaced middle r.fileName →
      (begun.run (before ++ .record now r :: middle)).Flushes w t →
      j.timesWritten before.length = 1 ∧ ∃ e ∈ j.written, e.HoldsBytesOf ⟨before.length, r⟩) ∧
    (∀ before now r after a, calls = before ++ .record now r :: after →
      latest? (begun.run before).log r.fileName = some a → a.record.mark = r.mark → r.mark ≠ "" →
      (begun.run before).reception now r = .unchanged ∧
      (begun.run (before ++ [.record now r])).recorder = (begun.run before).recorder ∧
      j.timesWritten before.length = 0) ∧
    ∀ before w t after, calls = before ++ .flush w t :: after → ¬ (begun.run before).Flushes w t →
      (begun.run (before ++ [.flush w t])).buffer = (begun.run before).buffer ∧
      (begun.run (before ++ [.flush w t])).written = (begun.run before).written := by
  intro begun j
  have exact : ∀ calls, (begun.run calls).Exact := run_exact (start_exact bounds interval storage)
  have number : ∀ before, (begun.run before).calls = before.length := by
    intro before
    rw [calls_run]
    exact Nat.zero_add _
  refine ⟨(exact calls).holds, timesWritten_le_one (exact calls), ?_, ?_, ?_⟩
  · intro before now r middle w t after split accepted kept succeeds
    have taken : begun.run (before ++ [.record now r]) = (begun.run before).call (.record now r) :=
      run_append begun before _
    have reached : begun.run (before ++ .record now r :: middle) =
        ((begun.run before).call (.record now r)).run middle := run_append begun before _
    have onwards : j =
        ((begun.run (before ++ .record now r :: middle)).call (.flush w t)).run after := by
      rw [← run_cons, ← run_append, List.append_assoc, List.cons_append, ← split]
    have awaits : ((begun.run before).call (.record now r)).Awaits ⟨before.length, r⟩ :=
      number before ▸ accepted_awaits accepted
    rw [taken] at kept
    have there : (begun.run (before ++ .record now r :: middle)).Awaits ⟨before.length, r⟩ ∨
        (begun.run (before ++ .record now r :: middle)).IsWritten ⟨before.length, r⟩ := by
      rw [reached]
      exact awaits.run (record_exact (exact before) now r) kept
    have written : j.IsWritten ⟨before.length, r⟩ := by
      rw [onwards]
      rcases there with still | done
      · exact (still.written (exact _) succeeds).run after
      · exact (done.more _).run after
    refine ⟨timesWritten_eq_one (exact calls) written, ?_⟩
    obtain ⟨e, member, origin⟩ := written
    obtain ⟨a, _, holds⟩ := (exact calls).holds e member
    have same : a = ⟨before.length, r⟩ := Option.some.inj (holds.origin.symm.trans origin)
    exact ⟨e, member, same ▸ holds⟩
  · intro before now r after a split latest same marked
    obtain ⟨passed, unchanged⟩ := unchanged_of_mark (exact before) latest same marked now
    have taken : begun.run (before ++ [.record now r]) = (begun.run before).call (.record now r) :=
      run_append begun before _
    have onwards : j = ((begun.run before).call (.record now r)).run after := by
      rw [← run_cons, ← run_append, ← split]
    refine ⟨passed, taken ▸ unchanged, ?_⟩
    rw [onwards, ← number before]
    exact timesWritten_of_refused (exact before) (by rw [accepts, passed]; rfl) after
  · intro before w t after split fails
    have taken : begun.run (before ++ [.flush w t]) = (begun.run before).call (.flush w t) :=
      run_append begun before _
    rw [taken]
    rcases flush_cases w t (begun.run before) with ⟨_, same, nothing⟩ | ⟨_, succeeds, _⟩
    · exact ⟨same, nothing⟩
    · exact absurd succeeds fails

/-- A record that a cancelled flush keeps back and that comes again unchanged before the next
flush. -/
def heldBack : Record := ⟨"version", .raw [1, 2], some ⟨10, 0⟩, "a"⟩

def cancelledOnce : List Call := [.flush (.calm true) ⟨20, 0⟩, .record ⟨30, 0⟩ heldBack]

theorem heldBack_written_once :
    let begun := start ⟨100, 100⟩ 60 (some .empty)
    let calls := Call.record ⟨10, 0⟩ heldBack :: (cancelledOnce ++ [.flush (.calm false) ⟨40, 0⟩])
    begun.accepts ⟨10, 0⟩ heldBack = true ∧
      ¬ (begun.run [.record ⟨10, 0⟩ heldBack]).Replaced cancelledOnce "version" ∧
      (begun.run (.record ⟨10, 0⟩ heldBack :: cancelledOnce)).Flushes (.calm false) ⟨40, 0⟩ ∧
      (begun.run calls).timesWritten 0 = 1 := by
  intro begun calls
  have accepted : begun.accepts ⟨10, 0⟩ heldBack = true := by decide
  have kept : ¬ (begun.run [.record ⟨10, 0⟩ heldBack]).Replaced cancelledOnce "version" := by
    rintro ⟨before, now, r, after, split, _, again⟩
    match before with
    | [] => cases split
    | [c] =>
      cases split
      exact absurd again (by decide)
    | c :: d :: before =>
      have length := congrArg List.length split
      simp [cancelledOnce] at length
  have succeeds : (begun.run (.record ⟨10, 0⟩ heldBack :: cancelledOnce)).Flushes
      (.calm false) ⟨40, 0⟩ :=
    ⟨archiveName ⟨10, 0⟩, by decide⟩
  obtain ⟨_, _, written, _⟩ := accepted_record_written_once ⟨100, 100⟩ 60 (some .empty) calls
  exact ⟨accepted, kept, succeeds,
    (written [] ⟨10, 0⟩ heldBack cancelledOnce (.calm false) ⟨40,
        0⟩ [] rfl accepted kept succeeds).1⟩

end Journal

end ClusterSurvey.Recording
