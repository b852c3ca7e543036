import ClusterSurvey.Proofs.Recording.Buffer

/-!
Records that do not get in each other's way. Each has bytes, and a file name and a fingerprint that
neither another of them nor the buffer has, and there is room for all. Then each is taken without a
warning, whatever came before it, and what waits in the end is what waited before with all of them.
A record of another file name is not touched by recording.
-/
namespace ClusterSurvey

def Record.bytes (r : Record) : Bytes :=
  match r.marshal with
  | .ok (data, _) => data
  | .error _ => []

/-- The fingerprint under which a record is stored, if it has bytes. -/
def Record.mark (r : Record) : String :=
  match r.marshal with
  | .ok (_, fingerprint) => fingerprint
  | .error _ => ""

namespace Recording
open Keyed

def keptOf (now : Instant) (r : Record) : Kept :=
  ⟨r.fileName, r.mark, r.capturedAt.getD now, some r.bytes⟩

structure Separate (bound : Nat) (b : Buffer) (records : List Record) : Prop where
  readable : ∀ r ∈ records, ∃ content, r.marshal = .ok content
  named : (records.map Record.fileName).Nodup
  unknown : ∀ r ∈ records, b.get? r.fileName = none
  marked : (records.map Record.mark).Nodup
  unlike : ∀ r ∈ records, ∀ k ∈ b.pending, k.fingerprint ≠ r.mark
  fits : b.size + (records.map fun r => r.bytes.length).sum ≤ bound

theorem Separate.perm {bound : Nat} {b : Buffer} {records others : List Record}
    (separate : Separate bound b records) (same : records.Perm others) :
    Separate bound b others where
  readable r member := separate.readable r (same.mem_iff.mpr member)
  named := (same.map _).nodup_iff.mp separate.named
  unknown r member := separate.unknown r (same.mem_iff.mpr member)
  marked := (same.map _).nodup_iff.mp separate.marked
  unlike r member := separate.unlike r (same.mem_iff.mpr member)
  fits := (same.map fun r => r.bytes.length).sum_nat ▸ separate.fits

namespace Buffer

def add (k : Kept) (b : Buffer) : Buffer := ⟨insert k.fileName k b.kept, b.size + k.size⟩

theorem get?_add_of_ne {k : Kept} {fileName : String} (other : fileName ≠ k.fileName) (b : Buffer) :
    (b.add k).get? fileName = b.get? fileName := lookup_insert_of_ne other k b.kept

theorem pending_add {k : Kept} (waits : k.isPending = true) {b : Buffer}
    (unknown : b.get? k.fileName = none) :
    (b.add k).pending.Perm (k :: b.pending) := by
  have inserted := ((perm_insert unknown k).map (·.2)).filter Kept.isPending
  rwa [List.map_cons, List.filter_cons_of_pos waits] at inserted

theorem record_separate {bounds : Bounds} (now : Instant) {r : Record}
    {rest : List Record} {b : Buffer} (separate : Separate bounds.archive b (r :: rest)) :
    ∃ full, b.record bounds now r = (.accepted [] full, b.add (keptOf now r)) := by
  obtain ⟨⟨data, fingerprint⟩, marshalled⟩ := separate.readable r List.mem_cons_self
  have unknown := separate.unknown r List.mem_cons_self
  have bytes : r.bytes = data := by simp [Record.bytes, marshalled]
  have mark : r.mark = fingerprint := by simp [Record.mark, marshalled]
  have fits := separate.fits
  rw [List.map_cons, List.sum_cons, bytes] at fits
  have replaced : b.replacedSize r.fileName = 0 := by simp [replacedSize, unknown]
  have alone : b.duplicating r.fileName fingerprint = [] := by
    have missing : b.pending.find? (fun k => k.fileName ≠ r.fileName && k.fingerprint =
        fingerprint) = none := by
      refine List.find?_eq_none.mpr fun k member => ?_
      have unlike := separate.unlike r List.mem_cons_self k member
      rw [mark] at unlike
      simp [unlike]
    rw [duplicating, missing]
  have room : ¬ (r.name ≠ runRecordName ∧ bounds.archive < b.size + data.length) := by omega
  refine ⟨decide (bounds.flush < b.size + data.length), ?_⟩
  simp only [record, marshalled, unknown, Option.any_none, Bool.and_false, Bool.false_eq_true,
    ↓reduceIte, accept, replaced, Nat.sub_zero, room, overwriting, Option.filter_none, alone,
    List.append_nil, keptOf, mark, bytes]
  rfl

theorem separate_add {bound : Nat} (now : Instant) {r : Record} {rest : List Record} {b : Buffer}
    (separate : Separate bound b (r :: rest)) : Separate bound (b.add (keptOf now r)) rest := by
  obtain ⟨name, named⟩ := List.nodup_cons.mp separate.named
  obtain ⟨mark, marked⟩ := List.nodup_cons.mp separate.marked
  have waiting : (b.add (keptOf now r)).pending.Perm (keptOf now r :: b.pending) :=
    pending_add rfl (separate.unknown r List.mem_cons_self)
  refine ⟨fun q later => separate.readable q (List.mem_cons_of_mem r later), named,
    ?_, marked, ?_, ?_⟩
  · intro q later
    rw [get?_add_of_ne fun same => name (List.mem_map.mpr ⟨q, later, same⟩)]
    exact separate.unknown q (List.mem_cons_of_mem r later)
  · intro q later k waits
    rcases List.mem_cons.mp (waiting.mem_iff.mp waits) with here | old
    · rw [here]
      exact fun same => mark (List.mem_map.mpr ⟨q, later, same.symm⟩)
    · exact separate.unlike q (List.mem_cons_of_mem r later) k old
  · have fits := separate.fits
    rw [List.map_cons, List.sum_cons] at fits
    have size : (keptOf now r).size = r.bytes.length := rfl
    simp only [add, size]
    omega

theorem filter_pending {b : Buffer} (sound : b.Sound) (fileName : String) :
    b.pending.filter (fun k => k.fileName ≠ fileName) =
      ((b.kept.filter fun p => p.1 ≠ fileName).map (·.2)).filter Kept.isPending := by
  have keys : b.kept.filter (fun p => p.2.fileName ≠ fileName) = b.kept.filter fun p =>
      p.1 ≠ fileName :=
    List.filter_congr fun p member => by rw [sound.named p member]
  rw [pending, List.filter_filter, ← keys, List.filter_map, List.filter_map, List.filter_filter]
  simp only [Function.comp_def, Bool.and_comm]

/-- A record does not touch what waits under other file names. -/
theorem pending_record_other {b : Buffer} (sound : b.Sound) (bounds : Bounds)
    (now : Instant) (r : Record) :
    (b.record bounds now r).2.pending.filter (fun k => k.fileName ≠ r.fileName) =
      b.pending.filter fun k => k.fileName ≠ r.fileName := by
  rw [filter_pending (record_sound sound bounds now r), filter_pending sound]
  rcases record_cases bounds now r b with ⟨_, same⟩ | ⟨data, fingerprint, _, _, _, taken⟩
  · rw [same]
  · rw [taken, filter_insert_ne]

end Buffer

end Recording

end ClusterSurvey
