import ClusterSurvey.Time.Instant
import Mathlib.Tactic.Common

/-!
The order of points in time. It is that of the pairs of seconds and nanoseconds, so it is linear.
-/
namespace ClusterSurvey.Instant

theorem le_iff {a b : Instant} :
    a ≤ b ↔ a.second < b.second ∨ a.second = b.second ∧ a.nano ≤ b.nano := by
  change ¬ (b.second < a.second ∨ b.second = a.second ∧ b.nano < a.nano) ↔ _
  omega

theorem le_refl (a : Instant) : a ≤ a := le_iff.mpr (Or.inr ⟨rfl, Nat.le_refl _⟩)

theorem le_trans {a b c : Instant} (first : a ≤ b) (second : b ≤ c) : a ≤ c := by
  rw [le_iff] at *
  omega

theorem le_total (a b : Instant) : a ≤ b ∨ b ≤ a := by
  rw [le_iff, le_iff]
  omega

theorem le_antisymm {a b : Instant} (first : a ≤ b) (second : b ≤ a) : a = b := by
  cases a
  cases b
  rw [le_iff] at first second
  simp only [Instant.mk.injEq] at *
  omega

theorem latest_cases (a b : Instant) : latest a b = a ∧ b ≤ a ∨ latest a b = b ∧ a ≤ b := by
  unfold latest
  split
  · rename_i before
    have after : ¬ a ≤ b := fun h => h before
    exact Or.inl ⟨rfl, (le_total a b).resolve_left after⟩
  · rename_i notBefore
    exact Or.inr ⟨rfl, notBefore⟩

theorem foldl_latest (t : Instant) (ts : List Instant) :
    ts.foldl latest t ∈ t :: ts ∧ ∀ u ∈ t :: ts, u ≤ ts.foldl latest t := by
  induction ts generalizing t with
  | nil => simp [le_refl]
  | cons first rest ih =>
    obtain ⟨member, bound⟩ := ih (latest t first)
    obtain ⟨least, others⟩ := List.forall_mem_cons.mp bound
    rw [List.foldl_cons]
    rcases latest_cases t first with ⟨same, below⟩ | ⟨same, below⟩
    · rw [same] at member least others ⊢
      refine ⟨?_, List.forall_mem_cons.mpr ⟨least,
        List.forall_mem_cons.mpr ⟨le_trans below least, others⟩⟩⟩
      rcases List.mem_cons.mp member with here | later
      · rw [here]
        exact List.mem_cons_self
      · exact List.mem_cons_of_mem _ (List.mem_cons_of_mem _ later)
    · rw [same] at member least others ⊢
      exact ⟨List.mem_cons_of_mem _ member,
        List.forall_mem_cons.mpr ⟨le_trans below least, List.forall_mem_cons.mpr ⟨least, others⟩⟩⟩

/-- The latest of some instants, if there are any. -/
def latestIn? (ts : List Instant) : Option Instant :=
  ts.foldl (fun kept t => some ((kept.map (·.latest t)).getD t)) none

theorem latestIn?_cons (t : Instant) (ts : List Instant) :
    latestIn? (t :: ts) = some (ts.foldl latest t) := by
  have run : ∀ t, ts.foldl (fun kept t => some ((kept.map (·.latest t)).getD t)) (some t) =
      some (ts.foldl latest t) := by
    induction ts with
    | nil => exact fun _ => rfl
    | cons first rest ih => exact fun t => ih (latest t first)
  exact run t

theorem latestIn?_concat (ts : List Instant) (t : Instant) :
    latestIn? (ts ++ [t]) = some (((latestIn? ts).map (·.latest t)).getD t) := by
  simp only [latestIn?, List.foldl_append, List.foldl_cons, List.foldl_nil]

theorem latestIn?_eq_some_iff {ts : List Instant} {t : Instant} :
    latestIn? ts = some t ↔ t ∈ ts ∧ ∀ u ∈ ts, u ≤ t := by
  cases ts with
  | nil => simp [latestIn?]
  | cons first rest =>
    obtain ⟨member, bound⟩ := foldl_latest first rest
    rw [latestIn?_cons, Option.some.injEq]
    constructor
    · rintro rfl
      exact ⟨member, bound⟩
    · rintro ⟨member', bound'⟩
      exact le_antisymm (bound' _ member) (bound t member')

/-- The nanoseconds since 1970; those of a leap second run on into the second after it. -/
def nanos (t : Instant) : Int := t.second * nanosPerSecond + t.nano

theorem lt_iff_nanos {a b : Instant} (first : a.isLeap = false) (second : b.isLeap = false) :
    a < b ↔ a.nanos < b.nanos := by
  have low := of_decide_eq_false first
  have high := of_decide_eq_false second
  change (a.second < b.second ∨ a.second = b.second ∧ a.nano < b.nano) ↔ _
  unfold nanos nanosPerSecond at *
  omega

theorem nanos_minusMillis (t : Instant) (millis : Nat) :
    (t.minusMillis millis).nanos = t.nanos - millis * 1000000 ∧
    (t.minusMillis millis).isLeap = false := by
  unfold minusMillis nanos isLeap nanosPerSecond
  constructor
  · dsimp only
    omega
  · apply decide_eq_false
    dsimp only
    omega

theorem minusMillis_lt_iff {t : Instant} (noLeap : t.isLeap = false) (now : Instant)
    (millis : Nat) :
    now.minusMillis millis < t ↔ now.nanos - t.nanos < millis * 1000000 := by
  obtain ⟨nanos, regular⟩ := nanos_minusMillis now millis
  rw [lt_iff_nanos regular noLeap, nanos]
  omega

theorem latest_lt {a b t : Instant} (first : a < t) (second : b < t) : latest a b < t := by
  rcases latest_cases a b with ⟨same, _⟩ | ⟨same, _⟩
  · rw [same]
    exact first
  · rw [same]
    exact second

theorem not_le_of_lt {a b : Instant} (less : a < b) : ¬ b ≤ a := fun le => le less

theorem lt_of_le_of_lt {a b c : Instant} (first : a ≤ b) (second : b < c) : a < c := by
  rw [le_iff] at first
  change b.second < c.second ∨ b.second = c.second ∧ b.nano < c.nano at second
  change a.second < c.second ∨ a.second = c.second ∧ a.nano < c.nano
  omega

end ClusterSurvey.Instant
