import ClusterSurvey.Lru
import ClusterSurvey.Proofs.Keyed

/-!
What a cache has under a key. Using other keys, setting other entries and making room can only drop
the entry, not bring one or change it.
-/
namespace ClusterSurvey.Lru

variable {κ α : Type} [DecidableEq κ]

theorem fst_get? (c : Lru κ α) (key : κ) :
    (c.get? key).1 = (c.entries.find? (·.1 = key)).map (·.2) := by
  unfold get?
  cases c.entries.find? (·.1 = key) <;> rfl

theorem get?_missing {c : Lru κ α} {key : κ} (missing : (c.get? key).1 = none) :
    (c.get? key).2 = c := by
  rw [fst_get?, Option.map_eq_none_iff] at missing
  simp only [get?, missing]

theorem get?_of_prefix {c d : Lru κ α} (fewer : d.entries <+: c.entries) {key : κ} {value : α}
    (found : (d.get? key).1 = some value) : (c.get? key).1 = some value := by
  rw [fst_get?] at found ⊢
  obtain ⟨p, first, same⟩ := Option.map_eq_some_iff.mp found
  rw [fewer.find?_eq_some first, ← same]
  rfl

theorem find?_moved {n key : κ} (other : n ≠ key) (value : α) (l : List (κ × α)) :
    ((key, value) :: l.filter (·.1 ≠ key)).find? (·.1 = n) = l.find? (·.1 = n) := by
  rw [List.find?_cons_of_neg (by simpa using Ne.symm other), List.find?_filter]
  congr 1
  funext p
  by_cases here : p.1 = n
  · simp [here, other]
  · simp [here]

theorem get?_get? {n key : κ} (other : n ≠ key) (c : Lru κ α) :
    ((c.get? key).2.get? n).1 = (c.get? n).1 := by
  rw [fst_get?, fst_get?]
  cases found : c.entries.find? (·.1 = key) with
  | none =>
    rw [get?_missing (by rw [fst_get?, found]; rfl)]
  | some p =>
    have moved : (c.get? key).2.entries = (key, p.2) :: c.entries.filter (·.1 ≠ key) := by
      have same : p.1 = key := by simpa using List.find?_some found
      simp only [get?, found, same]
    rw [moved, find?_moved other]

theorem get?_put {n key : κ} (other : n ≠ key) {c : Lru κ α} {v value : α}
    (found : ((c.put key v).get? n).1 = some value) : (c.get? n).1 = some value := by
  let unbounded : Lru κ α := { c with entries := (key, v) :: c.entries.filter (·.1 ≠ key) }
  have whole : (unbounded.get? n).1 = some value := get?_of_prefix (List.take_prefix _ _) found
  rwa [fst_get?, find?_moved other, ← fst_get?] at whole

theorem get?_resizeFor {c : Lru κ α} {estimate : Nat} {key : κ} {value : α}
    (found : ((c.resizeFor estimate).get? key).1 = some value) : (c.get? key).1 = some value :=
  get?_of_prefix (List.take_prefix _ _) found

/-! What was used last stands in front, so it stays as long as there is room for it. -/

theorem filter_front {recent entries : List (κ × α)} (front : recent <+: entries) {key : κ}
    (fresh : ∀ p ∈ recent, p.1 ≠ key) : recent <+: entries.filter (·.1 ≠ key) := by
  have kept : recent.filter (·.1 ≠ key) = recent :=
    List.filter_eq_self.mpr fun p member => decide_eq_true (fresh p member)
  rw [← kept]
  exact front.filter _

theorem front_get? {c : Lru κ α} {recent : List (κ × α)} (front : recent <+: c.entries) {key : κ}
    (fresh : ∀ p ∈ recent, p.1 ≠ key) {value : α} (found : (c.get? key).1 = some value) :
    (key, value) :: recent <+: (c.get? key).2.entries := by
  rw [fst_get?] at found
  obtain ⟨p, first, rfl⟩ := Option.map_eq_some_iff.mp found
  have same : p.1 = key := by simpa using List.find?_some first
  have moved : (c.get? key).2.entries = (key, p.2) :: c.entries.filter (·.1 ≠ key) := by
    simp only [get?, first, same]
  rw [moved]
  exact (List.prefix_cons_inj _).mpr (filter_front front fresh)

theorem front_put {c : Lru κ α} {recent : List (κ × α)} (front : recent <+: c.entries) {key : κ}
    (fresh : ∀ p ∈ recent, p.1 ≠ key) (room : recent.length < c.capacity) (value : α) :
    (key, value) :: recent <+: (c.put key value).entries :=
  List.prefix_take_iff.mpr ⟨(List.prefix_cons_inj _).mpr (filter_front front fresh), room⟩

omit [DecidableEq κ] in
theorem front_resizeFor {c : Lru κ α} {recent : List (κ × α)} (front : recent <+: c.entries)
    {estimate : Nat} (room : recent.length ≤ (c.resizeFor estimate).capacity) :
    recent <+: (c.resizeFor estimate).entries :=
  List.prefix_take_iff.mpr ⟨front, room⟩

theorem capacity_get? (c : Lru κ α) (key : κ) : (c.get? key).2.capacity = c.capacity := by
  unfold get?
  split <;> rfl

omit [DecidableEq κ] in
theorem capacity_resizeFor (c : Lru κ α) {estimate : Nat} (small : estimate * 6 ≤ wordMax) :
    (c.resizeFor estimate).capacity = max 1 ((6 * estimate + 4) / 5) := by
  rw [resizeFor, resize, Nat.min_eq_left small, Nat.max_comm, Nat.mul_comm]

theorem get?_of_front {c : Lru κ α} {recent : List (κ × α)} (front : recent <+: c.entries)
    (once : (recent.map fun p => p.1).Nodup) {key : κ} {value : α}
    (member : (key, value) ∈ recent) :
    (c.get? key).1 = some value := by
  rw [fst_get?, front.find?_eq_some ((Keyed.find?_key_eq_some_iff once).mpr ⟨member, rfl⟩)]
  rfl

end ClusterSurvey.Lru
