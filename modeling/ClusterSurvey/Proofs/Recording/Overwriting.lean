import ClusterSurvey.Proofs.Recording.Separate
import ClusterSurvey.Proofs.Run.Collect

/-!
Records that are recorded one after the other where there is room for all of them. Each of them is
taken, and one that comes later under the file name of another one takes its place. In the end all
of them wait exactly when those of one file name have the same bytes.
-/
namespace ClusterSurvey.Recording
open Keyed

def Recorder.Holds (s : Recorder) (r : Record) : Prop :=
  ∃ k ∈ s.buffer.pending, k.fileName = r.fileName ∧ k.data = some r.bytes

def Readable (records : List Record) : Prop := ∀ r ∈ records, ∃ content, r.marshal = .ok content

def totalBytes (records : List Record) : Nat := (records.map fun r => r.bytes.length).sum

namespace Buffer

theorem record_of_room {bounds : Bounds} (now : Instant) {r : Record} {b : Buffer}
    (readable : ∃ content, r.marshal = .ok content)
    (room : b.size + r.bytes.length ≤ bounds.archive) :
    (b.record bounds now r = (.unchanged, b) ∧ ∃ k, b.get? r.fileName = some k ∧
      k.fingerprint = r.mark) ∨
      ∃ warnings full, b.record bounds now r = (.accepted warnings full,
        ⟨insert r.fileName (keptOf now r) b.kept,
          b.size - b.replacedSize r.fileName + r.bytes.length⟩) := by
  obtain ⟨⟨data, fingerprint⟩, marshalled⟩ := readable
  have bytes : r.bytes = data := by simp [Record.bytes, marshalled]
  have mark : r.mark = fingerprint := by simp [Record.mark, marshalled]
  unfold record
  simp only [marshalled]
  split
  · rename_i known
    rw [Bool.and_eq_true, Option.any_eq_true] at known
    obtain ⟨k, found, same⟩ := known.2
    exact Or.inl ⟨rfl, k, found, by rw [mark]; exact of_decide_eq_true same⟩
  · have fits : ¬ (r.name ≠ runRecordName ∧
        bounds.archive < b.size - b.replacedSize r.fileName + data.length) := by
      rw [bytes] at room
      omega
    refine Or.inr ⟨overwriting r.fileName fingerprint (b.get? r.fileName)
      ++ b.duplicating r.fileName fingerprint,
      decide (bounds.flush < b.size - b.replacedSize r.fileName + data.length), ?_⟩
    simp only [accept, if_neg fits, keptOf, mark, bytes]

theorem record_of_new {bounds : Bounds} (now : Instant) {r : Record} {b : Buffer}
    (readable : ∃ content, r.marshal = .ok content) (ordinary : r.name ≠ runRecordName)
    (new : b.get? r.fileName = none) {warnings : List String}
    (taken : (b.record bounds now r).1.result = .ok warnings) :
    b.size + r.bytes.length ≤ bounds.archive ∧
      (b.record bounds now r).2 =
        ⟨insert r.fileName (keptOf now r) b.kept, b.size + r.bytes.length⟩ := by
  have replaced : b.replacedSize r.fileName = 0 := by rw [replacedSize, new]; rfl
  have room : b.size + r.bytes.length ≤ bounds.archive := by
    obtain ⟨⟨data, fingerprint⟩, marshalled⟩ := readable
    have bytes : r.bytes = data := by simp [Record.bytes, marshalled]
    by_contra large
    have exceeds : r.name ≠ runRecordName ∧
        bounds.archive < b.size - b.replacedSize r.fileName + data.length := by
      rw [replaced, ← bytes]
      exact ⟨ordinary, by omega⟩
    unfold record at taken
    simp only [marshalled, new, Option.any_none, Bool.and_false, Bool.false_eq_true, if_false,
      accept, if_pos exceeds]
      at taken
    cases taken
  refine ⟨room, ?_⟩
  rcases record_of_room now readable room with ⟨_, k, found, _⟩ | ⟨_, _, same⟩
  · rw [new] at found
    cases found
  · rw [same, replaced, Nat.sub_zero]

/-- What a buffer holds of records that were recorded one after the other into an empty one. -/
structure Filled (done : List Record) (b : Buffer) : Prop where
  sound : b.Sound
  size : b.size ≤ totalBytes done
  found : ∀ fileName k, b.get? fileName = some k → ∃ r ∈ done, r.fileName = fileName ∧
    k.data = some r.bytes

theorem empty_filled : Filled [] empty :=
  ⟨empty_sound, Nat.le_refl 0, fun _ _ found => by cases found⟩

theorem totalBytes_concat (done : List Record) (r : Record) :
    totalBytes (done ++ [r]) = totalBytes done + r.bytes.length := by
  simp [totalBytes]

theorem room_of_append {front back : List Record} {bound : Nat}
    (room : totalBytes (front ++ back) ≤ bound) :
    totalBytes front ≤ bound := by
  rw [totalBytes, List.map_append, List.sum_append_nat] at room
  exact Nat.le_trans (Nat.le_add_right _ _) room

theorem Filled.record {done : List Record} {b : Buffer} (filled : Filled done b)
    {bounds : Bounds} (now : Instant) {r : Record} (readable : ∃ content, r.marshal = .ok content)
    (room : totalBytes (done ++ [r]) ≤ bounds.archive) :
    Filled (done ++ [r]) (b.record bounds now r).2 ∧
      (∃ warnings, (b.record bounds now r).1.result = .ok warnings) ∧
      (∀ fileName ≠ r.fileName, (b.record bounds now r).2.get? fileName = b.get? fileName) ∧
      ((∀ a ∈ done, a.fileName = r.fileName → a.bytes = r.bytes) →
        ∃ k, (b.record bounds now r).2.get? r.fileName = some k ∧ k.data = some r.bytes) := by
  have sound := record_sound filled.sound bounds now r
  have small := filled.size
  rw [totalBytes_concat] at room
  rcases record_of_room now readable (Nat.le_trans (Nat.add_le_add_right small _) room) with
    ⟨same, k, found, _⟩ | ⟨warnings, full, taken⟩
  · rw [same]
    refine ⟨⟨filled.sound, ?_, fun fileName k found => ?_⟩, ⟨[], rfl⟩, fun _ _ => rfl,
      fun agree => ⟨k, found, ?_⟩⟩
    · rw [totalBytes_concat]
      exact Nat.le_trans small (Nat.le_add_right _ _)
    · obtain ⟨a, member, told⟩ := filled.found fileName k found
      exact ⟨a, List.mem_append_left _ member, told⟩
    · obtain ⟨a, member, named, data⟩ := filled.found r.fileName k found
      rw [data, agree a member named]
  · rw [taken] at sound ⊢
    have here : (insert r.fileName (keptOf now r) b.kept).lookup r.fileName = some (keptOf now r) :=
      lookup_insert_self _ _ _
    refine ⟨⟨sound, ?_, fun fileName k found => ?_⟩, ⟨warnings, rfl⟩,
      fun fileName other => lookup_insert_of_ne other _ _,
      fun _ => ⟨_, here, rfl⟩⟩
    · rw [totalBytes_concat]
      dsimp only
      omega
    · by_cases named : fileName = r.fileName
      · subst named
        cases here.symm.trans found
        exact ⟨r, List.mem_append_right _ (List.mem_singleton_self r), rfl, rfl⟩
      · have before : b.get? fileName = some k := (lookup_insert_of_ne named _ _).symm.trans found
        obtain ⟨a, member, told⟩ := filled.found fileName k before
        exact ⟨a, List.mem_append_left _ member, told⟩

def Has (b : Buffer) (r : Record) : Prop := ∃ k, b.get? r.fileName = some k ∧ k.data = some r.bytes

/-- Whether records of one file name have the same bytes. -/
def Agree (records : List Record) : Prop :=
  ∀ a ∈ records, ∀ b ∈ records, a.fileName = b.fileName → a.bytes = b.bytes

theorem Filled.record_has {done : List Record} {b : Buffer} (filled : Filled done b)
    {bounds : Bounds} (now : Instant) {r : Record} (readable : ∃ content, r.marshal = .ok content)
    (room : totalBytes (done ++ [r]) ≤ bounds.archive) (agree : Agree (done ++ [r]))
    (has : ∀ a ∈ done, b.Has a) : ∀ a ∈ done ++ [r], (b.record bounds now r).2.Has a := by
  obtain ⟨_, _, others, here⟩ := filled.record now readable room
  have taken := here fun a member =>
    agree a (List.mem_append_left _ member) r (List.mem_append_right _ List.mem_cons_self)
  intro a member
  by_cases named : a.fileName = r.fileName
  · rw [Has, named, agree a member r (List.mem_append_right _ List.mem_cons_self) named]
    exact taken
  · have earlier : a ∈ done := by
      rcases List.mem_append.mp member with earlier | last
      · exact earlier
      · exact absurd (congrArg Record.fileName (List.mem_singleton.mp last)) named
    rw [Has, others a.fileName named]
    exact has a earlier

end Buffer

namespace Recorder
open Buffer (Filled Agree room_of_append)

variable {done records : List Record} {s : Recorder}

theorem recordAll_filled (now : Instant) (filled : Filled done s.buffer)
    (readable : Readable records) (room : totalBytes (done ++ records) ≤ s.bounds.archive) :
    Filled (done ++ records) (s.recordAll now records).2.buffer ∧
      ∀ answer ∈ (s.recordAll now records).1, ∃ warnings, answer = .ok warnings := by
  induction records generalizing done s with
  | nil => exact ⟨by rwa [List.append_nil], fun answer member => by cases member⟩
  | cons r rest ih =>
    rw [List.append_cons] at room ⊢
    obtain ⟨next, answered, _⟩ :=
      filled.record now (readable r List.mem_cons_self) (room_of_append room)
    obtain ⟨last, others⟩ :=
      ih (s := (s.record now r).2) next (fun a member => readable a (List.mem_cons_of_mem r member))
      room
    refine ⟨last, fun answer member => ?_⟩
    rcases List.mem_cons.mp member with first | later
    · rw [first]
      exact answered
    · exact others answer later

theorem recordAll_has (now : Instant) (filled : Filled done s.buffer) (readable : Readable records)
    (room : totalBytes (done ++ records) ≤ s.bounds.archive) (agree : Agree (done ++ records))
    (has : ∀ a ∈ done, s.buffer.Has a) :
    ∀ a ∈ done ++ records, (s.recordAll now records).2.buffer.Has a := by
  induction records generalizing done s with
  | nil => rwa [List.append_nil]
  | cons r rest ih =>
    rw [List.append_cons] at room agree ⊢
    have first := readable r List.mem_cons_self
    have front := room_of_append room
    have among : Agree (done ++ [r]) := fun a inside b inside' =>
      agree a (List.mem_append_left _ inside) b (List.mem_append_left _ inside')
    obtain ⟨next, _⟩ := filled.record now first front
    exact ih (s := (s.record now r).2) next (fun a member =>
      readable a (List.mem_cons_of_mem r member)) room agree
      (filled.record_has now first front among has)

theorem holds_iff (sound : s.buffer.Sound) (r : Record) : s.Holds r ↔ s.buffer.Has r := by
  constructor
  · rintro ⟨k, waits, named, data⟩
    have found := ((Buffer.mem_pending_iff sound).mp waits).1
    rw [named] at found
    exact ⟨k, found, data⟩
  · rintro ⟨k, found, data⟩
    have named : k.fileName = r.fileName := (sound.named _ (mem_of_lookup found)).symm
    have waits : k ∈ s.buffer.pending := by
      rw [Buffer.mem_pending_iff sound, named, Kept.isPending, data]
      exact ⟨found, rfl⟩
    exact ⟨k, waits, named, data⟩

/-- A recorder with nothing in it and room for all records takes each of them, and has all of them
in the end exactly when those of one file name have the same bytes. -/
theorem recordAll_empty (now : Instant) (empty : s.buffer = .empty) (readable : Readable records)
    (room : totalBytes records ≤ s.bounds.archive) :
    (∀ answer ∈ (s.recordAll now records).1, ∃ warnings, answer = .ok warnings) ∧
      ((∀ r ∈ records, (s.recordAll now records).2.Holds r) ↔ Agree records) := by
  have filled : Filled [] s.buffer := empty ▸ Buffer.empty_filled
  obtain ⟨last, answered⟩ := recordAll_filled now filled readable room
  refine ⟨answered, fun holds a inside b inside' named => ?_, fun agree r member => ?_⟩
  · obtain ⟨k, found, data⟩ := (holds_iff last.sound a).mp (holds a inside)
    obtain ⟨k', found', data'⟩ := (holds_iff last.sound b).mp (holds b inside')
    rw [named, found'] at found
    rw [Option.some.inj found, data] at data'
    exact Option.some.inj data'
  · rw [holds_iff last.sound]
    exact recordAll_has now filled readable room agree (fun a member => by cases member) r member

theorem room_of_recordAll (now : Instant) (readable : Readable records)
    (ordinary : ∀ r ∈ records, r.name ≠ Buffer.runRecordName)
    (apart : (records.map Record.fileName).Nodup)
    (new : ∀ r ∈ records, s.buffer.get? r.fileName = none)
    (taken : ∀ answer ∈ (s.recordAll now records).1, ∃ warnings, answer = .ok warnings)
    (start : s.buffer.size ≤ s.bounds.archive) :
    s.buffer.size + totalBytes records ≤ s.bounds.archive := by
  induction records generalizing s with
  | nil => exact start
  | cons r rest ih =>
    obtain ⟨warnings, answered⟩ := taken _ List.mem_cons_self
    obtain ⟨other, apart⟩ := List.nodup_cons.mp apart
    obtain ⟨room, after⟩ :=
      Buffer.record_of_new now (readable r List.mem_cons_self) (ordinary r List.mem_cons_self)
      (new r List.mem_cons_self) answered
    have size : (s.record now r).2.buffer.size = s.buffer.size + r.bytes.length :=
      congrArg Buffer.size after
    have still : ∀ a ∈ rest, (s.record now r).2.buffer.get? a.fileName = none := by
      intro a member
      have different : a.fileName ≠ r.fileName :=
        fun same => other (same ▸ List.mem_map_of_mem member)
      have kept := congrArg (fun b => b.get? a.fileName) after
      exact (kept.trans (lookup_insert_of_ne different _ _)).trans
        (new a (List.mem_cons_of_mem r member))
    have whole :=
      ih (s := (s.record now r).2) (fun a member => readable a (List.mem_cons_of_mem r member))
      (fun a member => ordinary a (List.mem_cons_of_mem r member)) apart still
      (fun answer member => taken answer (List.mem_cons_of_mem _ member)) (size ▸ room)
    rw [size] at whole
    rw [totalBytes, List.map_cons, List.sum_cons, ← Nat.add_assoc]
    exact whole

end Recorder

end ClusterSurvey.Recording
