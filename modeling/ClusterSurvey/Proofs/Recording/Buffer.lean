import ClusterSurvey.Proofs.Keyed
import ClusterSurvey.Recording.Buffer
import Mathlib.Algebra.Order.Ring.Nat

/-!
What recording and clearing do to a buffer. A sound buffer holds each record once and under its own
file name, and its size is that of the bytes that wait. Both operations keep it sound, so the
subtractions in them never go below zero. Clearing is described as a whole: exactly those captures
lose their bytes that are among the written ones.
-/
namespace ClusterSurvey.Recording
open Keyed

theorem Kept.sameCapture_self (k : Kept) : k.sameCapture k = true := by
  simp [sameCapture]

theorem Kept.size_settled (k : Kept) : k.settled.size = 0 := rfl

theorem Kept.settled_of_idle {k : Kept} (idle : k.data = none) : k.settled = k := by
  cases k
  simp_all [settled]

def Reception.isAccepted : Reception → Bool
  | accepted _ _ => true
  | _ => false

namespace Buffer

structure Sound (b : Buffer) : Prop where
  ascending : Ascending b.kept
  named : ∀ p ∈ b.kept, p.1 = p.2.fileName
  exact : b.size = total Kept.size b.kept

theorem empty_sound : empty.Sound := ⟨List.Pairwise.nil, by simp [empty], rfl⟩

theorem replacedSize_le {b : Buffer} (sound : b.Sound) (fileName : String) :
    b.replacedSize fileName ≤ b.size := by
  rw [sound.exact, replacedSize]
  cases found : b.get? fileName with
  | none => exact Nat.zero_le _
  | some k => exact le_total Kept.size found

/-- A record leaves the buffer alone, or it is taken: then it has bytes that fit, and replaces what
stood under its file name. -/
theorem record_cases (bounds : Bounds) (now : Instant) (r : Record) (b : Buffer) :
    ((b.record bounds now r).1.isAccepted = false ∧ (b.record bounds now r).2 = b) ∨
    ∃ data fingerprint, r.marshal = .ok (data, fingerprint) ∧
      (b.record bounds now r).1.isAccepted = true ∧
      (r.name = runRecordName ∨ b.size - b.replacedSize r.fileName + data.length ≤ bounds.archive) ∧
      (b.record bounds now r).2 =
        ⟨insert r.fileName ⟨r.fileName, fingerprint, r.capturedAt.getD now, some data⟩ b.kept,
          b.size - b.replacedSize r.fileName + data.length⟩ := by
  unfold record
  split
  · exact Or.inl ⟨rfl, rfl⟩
  · rename_i data fingerprint marshalled
    dsimp only
    split
    · exact Or.inl ⟨rfl, rfl⟩
    · unfold accept
      dsimp only
      split
      · exact Or.inl ⟨rfl, rfl⟩
      · rename_i fits
        refine Or.inr ⟨data, fingerprint, marshalled, rfl, ?_, rfl⟩
        rw [not_and_or, not_not, not_lt] at fits
        exact fits

theorem record_sound {b : Buffer} (sound : b.Sound) (bounds : Bounds) (now : Instant) (r : Record) :
    (b.record bounds now r).2.Sound := by
  rcases record_cases bounds now r b with ⟨_, same⟩ | ⟨data, fingerprint, _, _, _, taken⟩
  · rw [same]
    exact sound
  · rw [taken]
    refine ⟨ascending_insert sound.ascending _ _, ?_, ?_⟩
    · intro p member
      rcases mem_insert member with here | later
      · rw [here]
      · exact sound.named p later
    · have balance := total_insert Kept.size sound.ascending r.fileName
        ⟨r.fileName, fingerprint, r.capturedAt.getD now, some data⟩
      have replaced := replacedSize_le sound r.fileName
      have exact := sound.exact
      simp only [replacedSize, get?] at replaced ⊢
      have fresh : Kept.size ⟨r.fileName, fingerprint, r.capturedAt.getD now, some data⟩ =
          data.length := rfl
      omega

/-- Whether this capture of a record is among those that were written. -/
def covers (written : List Kept) (fileName : String) (k : Kept) : Bool :=
  written.any fun w => w.fileName = fileName && k.sameCapture w

def cleared (written : List Kept) (fileName : String) (k : Kept) : Kept :=
  if covers written fileName k then k.settled else k

theorem covers_iff {written : List Kept} {fileName : String} {k : Kept} :
    covers written fileName k = true ↔
      ∃ w ∈ written, w.fileName = fileName ∧ k.sameCapture w = true := by
  simp [covers]

theorem cleared_cleared {first second : List Kept} {fileName : String} {k : Kept} :
    cleared second fileName (cleared first fileName k) = cleared (first ++ second) fileName k := by
  have settled : covers second fileName k.settled = covers second fileName k := rfl
  have both : covers (first ++ second) fileName k =
      (covers first fileName k || covers second fileName k) :=
    List.any_append
  unfold cleared
  rw [both]
  by_cases hit : covers first fileName k = true
  · rw [if_pos hit, settled, hit, Bool.true_or, if_pos rfl]
    split <;> rfl
  · rw [if_neg hit, Bool.eq_false_iff.mpr hit, Bool.false_or]

theorem clearOne_kept {kept : List (String × Kept)} (h : Ascending kept) (w : Kept) :
    (clearOne w kept).1 = mapValues (cleared [w]) kept := by
  have single : ∀ n k, cleared [w] n k = if w.fileName = n ∧ k.sameCapture w then
      k.settled else k := by
    intro n k
    simp [cleared, covers]
  unfold clearOne
  cases found : kept.lookup w.fileName with
  | none =>
    refine (mapValues_eq_self fun p member => ?_).symm
    have other := List.lookup_eq_none_iff.mp found p member
    rw [single, if_neg fun same => by simp [same.1] at other]
  | some k =>
    have only : ∀ p ∈ kept, w.fileName = p.1 → p.2 = k := by
      intro p member named
      have here := lookup_of_mem h member
      rw [← named, found] at here
      exact (Option.some.inj here).symm
    dsimp only
    split
    · rename_i same
      rw [modify_eq_mapValues h]
      refine List.map_congr_left fun p member => ?_
      simp only [single]
      by_cases named : w.fileName = p.1
      · rw [if_pos named.symm, if_pos ⟨named, by rw [only p member named]; exact same⟩]
      · rw [if_neg (Ne.symm named), if_neg fun both => named both.1]
    · rename_i different
      refine (mapValues_eq_self fun p member => ?_).symm
      rw [single, if_neg]
      rintro ⟨named, same⟩
      exact different (only p member named ▸ same)

theorem clearAll_kept {kept : List (String × Kept)} (h : Ascending kept) (written : List Kept) :
    (clearAll written kept).1 = mapValues (cleared written) kept := by
  induction written generalizing kept with
  | nil => exact (mapValues_eq_self fun _ _ => rfl).symm
  | cons w rest ih =>
    have first := clearOne_kept h w
    simp only [clearAll]
    rw [ih (first ▸ ascending_mapValues h _), first, mapValues_mapValues]
    simp only [cleared_cleared, List.singleton_append]

theorem clearOne_freed (w : Kept) (kept : List (String × Kept)) :
    (clearOne w kept).2 + total Kept.size (clearOne w kept).1 = total Kept.size kept := by
  unfold clearOne
  cases found : kept.lookup w.fileName with
  | none => exact Nat.zero_add _
  | some k =>
    dsimp only
    split
    · have balance := total_modify Kept.size Kept.settled found
      rw [Kept.size_settled] at balance
      exact (Nat.add_comm _ _).trans balance
    · exact Nat.zero_add _

theorem clearAll_freed (written : List Kept) (kept : List (String × Kept)) :
    (clearAll written kept).2 + total Kept.size
    (clearAll written kept).1 = total Kept.size kept := by
  induction written generalizing kept with
  | nil => exact Nat.zero_add _
  | cons w rest ih =>
    have first := clearOne_freed w kept
    have later := ih (clearOne w kept).1
    simp only [clearAll]
    omega

theorem clearAll_freed_twice {kept : List (String × Kept)} (h : Ascending kept)
    {first second : List Kept} (sub : second ⊆ first) :
    (clearAll second (clearAll first kept).1).2 = 0 := by
  have again : ∀ n k, cleared (first ++ second) n k = cleared first n k := by
    intro n k
    have absorbed : covers (first ++ second) n k = covers first n k := by
      rw [Bool.eq_iff_iff, covers_iff, covers_iff]
      constructor
      · rintro ⟨w, member, hit⟩
        exact ⟨w, (List.mem_append.mp member).elim id fun later => sub later, hit⟩
      · rintro ⟨w, member, hit⟩
        exact ⟨w, List.mem_append_left _ member, hit⟩
    simp only [cleared, absorbed]
  have same : (clearAll second (clearAll first kept).1).1 = (clearAll first kept).1 := by
    rw [clearAll_kept h, clearAll_kept (ascending_mapValues h _), mapValues_mapValues]
    simp only [cleared_cleared, again]
  have balance := clearAll_freed second (clearAll first kept).1
  rw [same] at balance
  omega

theorem get?_clear {b : Buffer} (sound : b.Sound) (written : List Kept) (fileName : String) :
    (b.clear written).get? fileName = (b.get? fileName).map (cleared written fileName) := by
  simp only [get?, clear]
  rw [clearAll_kept sound.ascending, lookup_mapValues]

theorem size_eq {b : Buffer} (sound : b.Sound) :
    b.size = ((b.kept.filterMap fun p => p.2.data).map List.length).sum := by
  have each : ∀ kept : List (String × Kept),
      total Kept.size kept = ((kept.filterMap fun p => p.2.data).map List.length).sum := by
    intro kept
    induction kept with
    | nil => rfl
    | cons p rest ih =>
      have first : total Kept.size (p :: rest) = p.2.size + total Kept.size rest := rfl
      rw [first, ih]
      cases present : p.2.data with
      | none => simp [present, Kept.size]
      | some data => simp [present, Kept.size]
  rw [sound.exact, each]

theorem freed_le {b : Buffer} (sound : b.Sound) (written : List Kept) :
    (clearAll written b.kept).2 ≤ b.size := by
  have balance := clearAll_freed written b.kept
  rw [sound.exact]
  omega

theorem clear_sound {b : Buffer} (sound : b.Sound) (written : List Kept) :
    (b.clear written).Sound := by
  have kept := clearAll_kept sound.ascending written
  refine ⟨?_, ?_, ?_⟩
  · simp only [clear, kept]
    exact ascending_mapValues sound.ascending _
  · intro p member
    simp only [clear, kept, mapValues, List.mem_map] at member
    obtain ⟨q, inside, rfl⟩ := member
    simp only [cleared]
    split
    · exact sound.named q inside
    · exact sound.named q inside
  · have balance := clearAll_freed written b.kept
    have exact := sound.exact
    simp only [clear]
    omega

theorem mem_pending_iff {b : Buffer} (sound : b.Sound) {k : Kept} :
    k ∈ b.pending ↔ b.get? k.fileName = some k ∧ k.isPending = true := by
  rw [pending, List.mem_filter, List.mem_map]
  refine and_congr_left fun _ => ⟨?_, fun found => ⟨(k.fileName, k), mem_of_lookup found, rfl⟩⟩
  rintro ⟨p, member, rfl⟩
  have named := sound.named p member
  exact lookup_of_mem sound.ascending (by rw [← named]; exact member)

theorem pending_ascending {b : Buffer} (sound : b.Sound) :
    (b.pending.map (·.fileName)).Pairwise (· < ·) := by
  have keys : b.kept.map (·.2.fileName) = b.kept.map (·.1) :=
    List.map_congr_left fun p member => (sound.named p member).symm
  have sorted : ((b.kept.map (·.2)).map (·.fileName)).Pairwise (· < ·) := by
    rw [List.map_map]
    change (b.kept.map (·.2.fileName)).Pairwise (· < ·)
    rw [keys]
    exact List.pairwise_map.mpr sound.ascending
  exact sorted.sublist (List.filter_sublist.map _)

theorem clear_pending {b : Buffer} (sound : b.Sound) :
    b.clear b.pending = ⟨mapValues (fun _ k => k.settled) b.kept, 0⟩ := by
  have settled : (b.clear b.pending).kept = mapValues (fun _ k => k.settled) b.kept := by
    rw [clear]
    simp only
    rw [clearAll_kept sound.ascending]
    refine List.map_congr_left fun p member => ?_
    have named := sound.named p member
    simp only [cleared, Prod.mk.injEq, true_and]
    split
    · rfl
    · rename_i uncovered
      cases present : p.2.data with
      | none => exact (Kept.settled_of_idle present).symm
      | some data =>
        refine absurd (covers_iff.mpr ⟨p.2, ?_, named.symm, p.2.sameCapture_self⟩) uncovered
        exact List.mem_filter.mpr ⟨List.mem_map_of_mem member, by simp [Kept.isPending, present]⟩
  have exact := (clear_sound sound b.pending).exact
  have none : total Kept.size (mapValues (fun _ k => k.settled) b.kept) = 0 := by
    refine total_eq_zero fun p member => ?_
    obtain ⟨q, _, rfl⟩ := List.mem_map.mp member
    exact q.2.size_settled
  rw [settled, none] at exact
  exact congrArg₂ Buffer.mk settled exact

theorem pending_settled (kept : List (String × Kept)) (size : Nat) :
    pending ⟨mapValues (fun _ k => k.settled) kept, size⟩ = [] := by
  refine List.filter_eq_nil_iff.mpr fun k member => ?_
  obtain ⟨p, inside, rfl⟩ := List.mem_map.mp member
  obtain ⟨q, _, rfl⟩ := List.mem_map.mp inside
  simp [Kept.isPending, Kept.settled]

end Buffer

end ClusterSurvey.Recording
