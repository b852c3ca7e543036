import ClusterSurvey.Proofs.Keyed
import ClusterSurvey.Proofs.Text.Split
import ClusterSurvey.Survey.InstallPlans
import Mathlib.Algebra.GroupWithZero.Nat
import Mathlib.Data.List.Dedup
import Mathlib.Data.List.Induction
import Mathlib.Data.List.Nodup
import Mathlib.Data.List.Perm.Subperm

/-!
What a report of install plans tells. Plans are counted under a text that is put together from their
namespace, name and version; what stands under a text is the first plan that has it, with the number
of all that have it. That text does not always tell the three parts, so plans of two kinds are one
in the report exactly when the text is the same.
-/
namespace ClusterSurvey.Survey

abbrev PlanKind : Type := String × String × String

def CountedPlan.kind (p : CountedPlan) : PlanKind := (p.ns, p.name, p.csv)

def PlanKind.key (k : PlanKind) : String := k.1 ++ "." ++ k.2.1 ++ "." ++ k.2.2

theorem CountedPlan.key_eq (p : CountedPlan) : p.key = p.kind.key := rfl

def CountedPlan.times (p : CountedPlan) (n : Nat) : CountedPlan := { p with count := n }

def kindsOf (plans : List Json) : List PlanKind := plans.map fun plan => (planOf plan).kind

/-- The texts that plans are counted under tell their kinds apart. -/
def KeysApart (plans : List Json) : Prop :=
  ∀ a ∈ kindsOf plans, ∀ b ∈ kindsOf plans, a.key = b.key → a = b

namespace PlanCounter

def ofPlans (plans : List Json) : PlanCounter := plans.foldl add .empty

def counting (p : CountedPlan) : Option CountedPlan → CountedPlan
  | some q => q.times (q.count + 1)
  | none => p

theorem insert_eq (p : CountedPlan) {l : List (String × CountedPlan)}
    (ascending : Keyed.Ascending l) :
    insert p l = Keyed.insert p.key (counting p (l.lookup p.key)) l := by
  induction l with
  | nil => rfl
  | cons e rest ih =>
    obtain ⟨k, q⟩ := e
    obtain ⟨below, tail⟩ := List.pairwise_cons.mp ascending
    rw [insert, Keyed.insert, Keyed.lookup_cons]
    by_cases same : k = p.key
    · simp only [same, ↓reduceIte, counting, CountedPlan.times]
    · rw [if_neg same, if_neg same, if_neg same]
      by_cases less : p.key < k
      · have absent : rest.lookup p.key = none := by
          apply List.lookup_eq_none_iff.mpr
          intro e member
          simpa using ne_of_lt (lt_trans less (below e member))
        rw [if_pos less, if_pos less, absent]
        rfl
      · rw [if_neg less, if_neg less, ih tail]

theorem ofPlans_concat (plans : List Json) (plan : Json) :
    ofPlans (plans ++ [plan]) = (ofPlans plans).add plan := by
  simp only [ofPlans, List.foldl_append, List.foldl_cons, List.foldl_nil]

theorem ofPlans_ascending (plans : List Json) : Keyed.Ascending (ofPlans plans).plans := by
  induction plans using List.reverseRecOn with
  | nil => exact List.Pairwise.nil
  | append_singleton plans plan ih =>
    rw [ofPlans_concat, add, insert_eq _ ih]
    exact Keyed.ascending_insert ih _ _

theorem ofPlans_total (plans : List Json) : (ofPlans plans).total = plans.length := by
  induction plans using List.reverseRecOn with
  | nil => rfl
  | append_singleton plans plan ih =>
      rw [ofPlans_concat, add, ih, List.length_append, List.length_singleton]

def timesOf (plans : List Json) (key : String) : Nat :=
  plans.countP fun plan => (planOf plan).key = key

theorem lookup_ofPlans (plans : List Json) (key : String) :
    (ofPlans plans).plans.lookup key =
      (plans.find? fun plan => (planOf plan).key = key).map fun plan => (planOf plan).times
      (timesOf plans key) := by
  induction plans using List.reverseRecOn with
  | nil => rfl
  | append_singleton plans plan ih =>
    rw [ofPlans_concat, add, insert_eq _ (ofPlans_ascending plans), List.find?_append, timesOf,
      List.countP_append]
    by_cases here : (planOf plan).key = key
    · subst here
      rw [Keyed.lookup_insert_self, ih]
      cases found : plans.find? fun p => (planOf p).key = (planOf plan).key with
      | some first => simp [counting, timesOf, CountedPlan.times]
      | none =>
        have never : plans.countP (fun p => (planOf p).key = (planOf plan).key) = 0 :=
          List.countP_eq_zero.mpr fun p member => List.find?_eq_none.mp found p member
        have single : (planOf plan).times 1 = planOf plan := rfl
        simp [counting, never, single]
    · rw [Keyed.lookup_insert_of_ne (Ne.symm here), ih]
      simp [here, timesOf]

theorem entry_of_lookup {plans : List Json} {key : String} {p : CountedPlan}
    (found : (ofPlans plans).plans.lookup key = some p) :
    ∃ plan ∈ plans, (planOf plan).key = key ∧ p = (planOf plan).times (timesOf plans key) := by
  rw [lookup_ofPlans] at found
  obtain ⟨plan, first, same⟩ := Option.map_eq_some_iff.mp found
  exact ⟨plan, List.mem_of_find?_eq_some first, by simpa using List.find?_some first, same.symm⟩

theorem key_of_lookup {plans : List Json} {key : String} {p : CountedPlan}
    (found : (ofPlans plans).plans.lookup key = some p) : p.key = key := by
  obtain ⟨plan, _, here, rfl⟩ := entry_of_lookup found
  exact here

theorem mem_counted_iff {plans : List Json} {p : CountedPlan} :
    p ∈ (ofPlans plans).counted ↔ (ofPlans plans).plans.lookup p.key = some p := by
  constructor
  · intro member
    obtain ⟨⟨key, q⟩, inside, rfl⟩ := List.mem_map.mp member
    have found := Keyed.lookup_of_mem (ofPlans_ascending plans) inside
    rwa [key_of_lookup found]
  · intro found
    exact List.mem_map_of_mem (f := fun e => e.2) (Keyed.mem_of_lookup found)

theorem counted_keys_nodup (plans : List Json) :
    ((ofPlans plans).counted.map CountedPlan.key).Nodup := by
  have keys : (ofPlans plans).counted.map CountedPlan.key =
      (ofPlans plans).plans.map fun e => e.1 := by
    rw [counted, List.map_map]
    apply List.map_congr_left
    intro e inside
    exact key_of_lookup (Keyed.lookup_of_mem (ofPlans_ascending plans) inside)
  rw [keys]
  exact Keyed.nodup_keys (ofPlans_ascending plans)

theorem counted_told {plans : List Json} {p : CountedPlan} (member : p ∈ (ofPlans plans).counted) :
    p.kind ∈ kindsOf plans ∧ p.count = timesOf plans p.key := by
  obtain ⟨plan, inside, here, same⟩ := entry_of_lookup (mem_counted_iff.mp member)
  constructor
  · rw [same]
    exact List.mem_map_of_mem (f := fun plan => (planOf plan).kind) inside
  · exact congrArg CountedPlan.count same

theorem exists_counted {plans : List Json} {kind : PlanKind} (member : kind ∈ kindsOf plans) :
    ∃ p ∈ (ofPlans plans).counted, p.key = kind.key := by
  obtain ⟨plan, inside, rfl⟩ := List.mem_map.mp member
  cases found : (ofPlans plans).plans.lookup (planOf plan).key with
  | none =>
    rw [lookup_ofPlans, Option.map_eq_none_iff] at found
    simpa using List.find?_eq_none.mp found plan inside
  | some p =>
    have here := key_of_lookup found
    exact ⟨p, mem_counted_iff.mpr (by rwa [here]), here⟩

theorem sum_insert {p : CountedPlan} (single : p.count = 1) (l : List (String × CountedPlan)) :
    ((insert p l).map fun e => e.2.count).sum = (l.map fun e => e.2.count).sum + 1 := by
  induction l with
  | nil => simp [insert, single]
  | cons e rest ih =>
    rw [insert]
    split
    · simp only [List.map_cons, List.sum_cons]
      omega
    · split
      · simp only [List.map_cons, List.sum_cons, single]
        omega
      · simp only [List.map_cons, List.sum_cons, ih]
        omega

theorem sum_counts (plans : List Json) :
    ((ofPlans plans).counted.map CountedPlan.count).sum = plans.length := by
  induction plans using List.reverseRecOn with
  | nil => rfl
  | append_singleton plans plan ih =>
    rw [counted, List.map_map] at ih ⊢
    have more := sum_insert (p := planOf plan) rfl (ofPlans plans).plans
    rw [ofPlans_concat, add, List.length_append, List.length_singleton, ← ih]
    exact more

/-! Which of the counted plans are reported. -/

/-- The plans that are frequent enough to be reported, in the order of their keys. -/
def reaching (c : PlanCounter) (limit : Nat) : List CountedPlan :=
  c.counted.filter fun p => c.threshold limit ≤ p.count

/-- What is left out is not more frequent than what is reported. -/
def KeepsMostFrequent (c : PlanCounter) (limit : Nat) : Prop :=
  ∀ p ∈ c.counted, p ∉ c.top limit → ∀ q ∈ c.top limit, p.count ≤ q.count

theorem top_perm (c : PlanCounter) (limit : Nat) :
    (c.top limit).Perm ((c.reaching limit).take limit) :=
  List.mergeSort_perm _ _

theorem mem_top {c : PlanCounter} {limit : Nat} {p : CountedPlan} :
    p ∈ c.top limit ↔ p ∈ (c.reaching limit).take limit :=
  (c.top_perm limit).mem_iff

theorem mergeSort_descending {α : Type} (measure : α → Nat) (l : List α) :
    (l.mergeSort fun a b => decide (measure b ≤ measure a)).Pairwise fun a b =>
      measure b ≤ measure a := by
  have trans : ∀ a b c : α, decide (measure b ≤ measure a) = true →
      decide (measure c ≤ measure b) = true →
      decide (measure c ≤ measure a) = true := by
    intro a b c first second
    rw [decide_eq_true_eq] at *
    exact Nat.le_trans second first
  have total : ∀ a b : α, (decide (measure b ≤ measure a) || decide (measure a ≤ measure b)) =
      true := by
    intro a b
    rw [Bool.or_eq_true, decide_eq_true_eq, decide_eq_true_eq]
    exact Nat.le_total _ _
  exact (List.pairwise_mergeSort trans total l).imp of_decide_eq_true

theorem top_descending (c : PlanCounter) (limit : Nat) :
    (c.top limit).Pairwise fun a b => b.count ≤ a.count :=
  mergeSort_descending CountedPlan.count _

theorem threshold_of_few {c : PlanCounter} {limit : Nat} (few : c.counted.length ≤ limit) :
    c.threshold limit = 0 := by
  simp only [threshold, List.length_mergeSort, List.length_map]
  rw [if_neg (by omega)]

theorem threshold_splits {c : PlanCounter} {limit : Nat} (many : limit < c.counted.length) :
    ∃ larger smaller, (c.counted.map CountedPlan.count).Perm
      (larger ++ c.threshold limit :: smaller) ∧
      larger.length = limit - 1 ∧ (∀ n ∈ larger, c.threshold limit ≤ n) ∧
        ∀ n ∈ smaller, n ≤ c.threshold limit := by
  let counts := (c.counted.map CountedPlan.count).mergeSort fun a b => decide (b ≤ a)
  have sorted : counts.Pairwise fun a b => b ≤ a := mergeSort_descending id _
  have length : counts.length = c.counted.length := by rw [List.length_mergeSort, List.length_map]
  have within : limit - 1 < counts.length := by omega
  have here : c.threshold limit = counts[limit - 1] := by
    have chosen : c.threshold limit = if limit < counts.length then
        (counts[limit - 1]?).getD 0 else 0 := rfl
    rw [chosen, if_pos (by omega), List.getElem?_eq_getElem within, Option.getD_some]
  have split : counts = counts.take (limit - 1)
      ++ c.threshold limit :: counts.drop (limit - 1 + 1) := by
    rw [here, List.getElem_cons_drop, List.take_append_drop]
  refine ⟨counts.take (limit - 1), counts.drop (limit - 1 + 1), ?_, ?_, ?_, ?_⟩
  · rw [← split]
    exact (List.mergeSort_perm _ _).symm
  · rw [List.length_take]
    omega
  · rw [split] at sorted
    intro n member
    exact (List.pairwise_append.mp sorted).2.2 n member _ List.mem_cons_self
  · rw [split] at sorted
    exact (List.pairwise_cons.mp (List.pairwise_append.mp sorted).2.1).1

theorem reaching_of_few {c : PlanCounter} {limit : Nat} (few : c.counted.length ≤ limit) :
    c.reaching limit = c.counted := by
  apply List.filter_eq_self.mpr
  intro p _
  rw [threshold_of_few few]
  exact decide_eq_true (Nat.zero_le _)

theorem length_reaching (c : PlanCounter) (limit : Nat) :
    min limit c.counted.length ≤ (c.reaching limit).length := by
  by_cases few : c.counted.length ≤ limit
  · rw [reaching_of_few few]
    exact Nat.min_le_right _ _
  · -- The counts in front of the threshold and the threshold itself already fill the places.
    obtain ⟨larger, smaller, perm, length, above, _⟩ := threshold_splits (Nat.lt_of_not_le few)
    have counted : (c.reaching limit).length =
        (c.counted.map CountedPlan.count).countP (c.threshold limit ≤ ·) := by
      rw [reaching, ← List.countP_eq_length_filter, List.countP_map]
      rfl
    have front : larger.countP (c.threshold limit ≤ ·) = larger.length :=
      List.countP_eq_length.mpr fun n member => decide_eq_true (above n member)
    rw [counted, perm.countP_eq, List.countP_append, front, List.countP_cons_of_pos (by simp)]
    omega

theorem countP_exceeding {c : PlanCounter} {limit : Nat} (many : limit < c.counted.length) :
    c.counted.countP (fun p => c.threshold limit < p.count) ≤ limit - 1 := by
  obtain ⟨larger, smaller, perm, length, _, below⟩ := threshold_splits many
  have counted : c.counted.countP (fun p => c.threshold limit < p.count) =
      (c.counted.map CountedPlan.count).countP (c.threshold limit < ·) := by
    rw [List.countP_map]
    rfl
  have back : smaller.countP (c.threshold limit < ·) = 0 := by
    apply List.countP_eq_zero.mpr
    intro n member
    simpa using below n member
  have front : larger.countP (c.threshold limit < ·) ≤ larger.length := List.countP_le_length
  rw [counted, perm.countP_eq, List.countP_append, List.countP_cons_of_neg (by simp), back]
  omega

theorem top_length (c : PlanCounter) (limit : Nat) :
    (c.top limit).length = min limit c.counted.length := by
  have enough := c.length_reaching limit
  have some : (c.reaching limit).length ≤ c.counted.length := List.length_filter_le _ _
  rw [(c.top_perm limit).length_eq, List.length_take]
  omega

theorem top_subset (c : PlanCounter) (limit : Nat) : c.top limit ⊆ c.counted := by
  intro p member
  exact (List.mem_filter.mp (List.mem_of_mem_take (mem_top.mp member))).1

theorem top_nodup {c : PlanCounter} (once : c.counted.Nodup) (limit : Nat) : (c.top limit).Nodup :=
  (c.top_perm limit).nodup_iff.mpr ((once.filter _).sublist (List.take_sublist _ _))

theorem mem_drop_filter_iff {α : Type} {which : α → Bool} {l : List α} {n : Nat} {a : α} :
    a ∈ (l.filter which).drop n ↔
      ∃ before after, l = before ++ a :: after ∧ which a = true ∧ n ≤ before.countP which := by
  constructor
  · intro member
    obtain ⟨u, v, split⟩ := List.append_of_mem member
    have whole : l.filter which = ((l.filter which).take n ++ u) ++ a :: v := by
      rw [List.append_assoc, ← split, List.take_append_drop]
    obtain ⟨first, second, rfl, front, back⟩ := List.filter_eq_append_iff.mp whole
    obtain ⟨between, after, rfl, none, chosen, _⟩ := List.filter_eq_cons_iff.mp back
    refine ⟨first ++ between, after, by simp, chosen, ?_⟩
    have room : n < (List.filter which (first ++ (between ++ a :: after))).length := by
      by_contra short
      rw [List.drop_eq_nil_of_le (Nat.le_of_not_lt short)] at member
      cases member
    rw [List.countP_append, List.countP_eq_length_filter, front, List.length_append,
      List.length_take]
    omega
  · rintro ⟨before, after, rfl, chosen, enough⟩
    rw [List.countP_eq_length_filter] at enough
    rw [List.filter_append, List.filter_cons_of_pos chosen, List.drop_append_of_le_length enough]
    exact List.mem_append_right _ List.mem_cons_self

/-- The most frequent plans are reported unless one that exceeds the threshold stands behind as many
that reach it as there are places. -/
theorem keepsMostFrequent_iff {c : PlanCounter} (once : c.counted.Nodup) (limit : Nat) :
    c.KeepsMostFrequent limit ↔ ∀ before p after, c.counted = before ++ p :: after →
      c.threshold limit < p.count →
      before.countP (fun q => c.threshold limit ≤ q.count) < limit := by
  have reached : ∀ q ∈ c.top limit, c.threshold limit ≤ q.count := by
    intro q member
    exact of_decide_eq_true (List.mem_filter.mp (List.mem_of_mem_take (mem_top.mp member))).2
  constructor
  · intro keeps before p after split exceeds
    by_contra full
    have member : p ∈ c.counted := by
      rw [split]
      exact List.mem_append_right _ List.mem_cons_self
    have dropped : p ∈ (c.reaching limit).drop limit :=
      mem_drop_filter_iff.mpr ⟨before, after, split, decide_eq_true (Nat.le_of_lt exceeds),
        Nat.le_of_not_lt full⟩
    have out : p ∉ c.top limit := by
      intro taken
      exact List.disjoint_take_drop (once.filter _) (Nat.le_refl limit) (mem_top.mp taken) dropped
    have passed : before.countP (fun q => c.threshold limit ≤ q.count) ≤ before.length :=
      List.countP_le_length
    have many : limit < c.counted.length := by
      rw [split, List.length_append, List.length_cons]
      omega
    -- All that are reported would exceed the threshold, and `p` too.
    have exceeding : ∀ q ∈ p :: c.top limit, c.threshold limit < q.count := by
      intro q inside
      rcases List.mem_cons.mp inside with rfl | taken
      · exact exceeds
      · exact Nat.lt_of_lt_of_le exceeds (keeps p member out q taken)
    have inside : (p :: c.top limit).Subperm c.counted := by
      apply (List.nodup_cons.mpr ⟨out, top_nodup once limit⟩).subperm
      exact List.cons_subset.mpr ⟨member, c.top_subset limit⟩
    have bound := inside.countP_le (fun q => c.threshold limit < q.count)
    have all := List.countP_eq_length.mpr fun q here => decide_eq_true (exceeding q here)
    rw [all, List.length_cons, top_length] at bound
    have few := countP_exceeding many
    omega
  · intro places p member out q taken
    by_contra more
    have exceeds : c.threshold limit < p.count := by
      have := reached q taken
      omega
    have reaches : p ∈ c.reaching limit :=
      List.mem_filter.mpr ⟨member, decide_eq_true (Nat.le_of_lt exceeds)⟩
    rw [← List.take_append_drop limit (c.reaching limit)] at reaches
    rcases List.mem_append.mp reaches with inside | behind
    · exact out (mem_top.mpr inside)
    · obtain ⟨before, after, split, _, full⟩ := mem_drop_filter_iff.mp behind
      have := places before p after split exceeds
      omega

theorem counted_nodup (plans : List Json) : (ofPlans plans).counted.Nodup :=
  (counted_keys_nodup plans).of_map

end PlanCounter

open PlanCounter

/-- A report has as many plans as there are places, or all; each is there once and the most frequent
come first. They are the most frequent ones exactly when each plan that exceeds the count of the
last place has, in the order of the keys, fewer plans before it that reach this count than there are
places. -/
theorem report_of_most_frequent (plans : List Json) (limit : Nat) :
    let c := ofPlans plans
    (c.report limit).get? "items" = some (.arr ((c.top limit).map CountedPlan.toJson)) ∧
    (c.top limit).length = min limit c.counted.length ∧ c.top limit ⊆ c.counted ∧
      (c.top limit).Nodup ∧
    (c.top limit).Pairwise (fun a b => b.count ≤ a.count) ∧
    (c.KeepsMostFrequent limit ↔ ∀ before p after, c.counted = before ++ p :: after →
        c.threshold limit < p.count →
      before.countP (fun q => c.threshold limit ≤ q.count) < limit) := by
  intro c
  have once := counted_nodup plans
  exact ⟨rfl, c.top_length limit, c.top_subset limit, top_nodup once limit, c.top_descending limit,
    keepsMostFrequent_iff once limit⟩

def installPlan (ns name : String) (versions : List String) : Json :=
  .obj [("metadata", .obj [("namespace", .str ns), ("generateName", .str name)]),
    ("spec", .obj [("clusterServiceVersionNames", .arr (versions.map .str))])]

def sevenPlans : List Json :=
  List.replicate 2 (installPlan "operators" "a-" ["etcd.v1"]) ++
    List.replicate 2 (installPlan "operators" "b-" ["etcd.v1"]) ++
    List.replicate 3 (installPlan "operators" "c-" ["etcd.v1"])

/-- The most frequent plan is left out, though there are two places. -/
theorem sevenPlans_cut : ¬ (ofPlans sevenPlans).KeepsMostFrequent 2 := by
  have counted : (ofPlans sevenPlans).counted =
      [⟨"operators", "a-", "etcd.v1", 2⟩, ⟨"operators", "b-", "etcd.v1", 2⟩] ++
        ⟨"operators", "c-", "etcd.v1", 3⟩ :: [] := by decide +kernel
  have reached : (ofPlans sevenPlans).threshold 2 ≤ 2 := by
    have enough := (ofPlans sevenPlans).length_reaching 2
    by_contra more
    have above := Nat.lt_of_not_le more
    have one : ((ofPlans sevenPlans).reaching 2).length ≤ 1 := by
      rw [reaching, counted, List.filter_append, List.filter_eq_nil_iff.mpr (by simp [above])]
      exact List.length_filter_le _ _
    rw [counted] at enough
    exact absurd (Nat.le_trans enough one) (by decide)
  intro keeps
  have places :=
    (keepsMostFrequent_iff (counted_nodup sevenPlans) 2).mp keeps _ _ _ counted
      (Nat.lt_succ_of_le reached)
  simp [reached] at places

/-- A report with places for all tells the plans by their kinds: each kind that was added is there
once, with the number of its plans. -/
structure TellsKinds (c : PlanCounter) (limit : Nat) (kinds : List PlanKind) : Prop where
  once : ((c.top limit).map CountedPlan.kind).Nodup
  complete : ∀ kind, kind ∈ (c.top limit).map CountedPlan.kind ↔ kind ∈ kinds
  counts : ∀ p ∈ c.top limit, p.count = kinds.count p.kind
  distinct : c.plans.length = kinds.dedup.length

theorem timesOf_eq (plans : List Json) (key : String) :
    timesOf plans key = (kindsOf plans).countP fun kind => kind.key = key := by
  rw [kindsOf, List.countP_map]
  rfl

theorem counted_kinds_nodup (plans : List Json) :
    ((ofPlans plans).counted.map CountedPlan.kind).Nodup := by
  have keys := counted_keys_nodup plans
  have through : (ofPlans plans).counted.map CountedPlan.key =
      ((ofPlans plans).counted.map CountedPlan.kind).map PlanKind.key := by
    rw [List.map_map]
    rfl
  rw [through] at keys
  exact keys.of_map

theorem length_counted_le (plans : List Json) :
    (ofPlans plans).counted.length ≤ (kindsOf plans).dedup.length := by
  rw [← List.length_map CountedPlan.kind]
  apply ((counted_kinds_nodup plans).subperm _).length_le
  intro kind member
  obtain ⟨p, inside, rfl⟩ := List.mem_map.mp member
  exact List.mem_dedup.mpr (counted_told inside).1

theorem top_of_all {c : PlanCounter} {limit : Nat} (few : c.counted.length ≤ limit) :
    (c.top limit).Perm c.counted := by
  have all := c.top_perm limit
  rwa [reaching_of_few few, List.take_of_length_le few] at all

theorem keysApart_of_tellsKinds {plans : List Json} {limit : Nat}
    (few : (ofPlans plans).counted.length ≤ limit)
    (tells : TellsKinds (ofPlans plans) limit (kindsOf plans)) : KeysApart plans := by
  have perm := top_of_all few
  have counted : ∀ kind ∈ kindsOf plans, ∃ p ∈ (ofPlans plans).counted, p.kind = kind := by
    intro kind member
    obtain ⟨p, inside, same⟩ := List.mem_map.mp ((tells.complete kind).mpr member)
    exact ⟨p, perm.mem_iff.mp inside, same⟩
  intro a first b second same
  obtain ⟨p, insideP, rfl⟩ := counted a first
  obtain ⟨q, insideQ, rfl⟩ := counted b second
  have together := List.inj_on_of_nodup_map (counted_keys_nodup plans) insideP insideQ same
  rw [together]

theorem tellsKinds_of_keysApart {plans : List Json} {limit : Nat}
    (few : (ofPlans plans).counted.length ≤ limit) (apart : KeysApart plans) :
    TellsKinds (ofPlans plans) limit (kindsOf plans) := by
  have perm := top_of_all few
  have once := counted_kinds_nodup plans
  have same : ∀ kind, kind ∈ (ofPlans plans).counted.map CountedPlan.kind ↔
      kind ∈ kindsOf plans := by
    intro kind
    constructor
    · intro member
      obtain ⟨p, inside, rfl⟩ := List.mem_map.mp member
      exact (counted_told inside).1
    · intro member
      obtain ⟨p, inside, here⟩ := exists_counted member
      rw [← apart p.kind (counted_told inside).1 kind member here]
      exact List.mem_map_of_mem inside
  refine ⟨(perm.map _).nodup_iff.mpr once, ?_, ?_, ?_⟩
  · intro kind
    rw [(perm.map _).mem_iff, same]
  · intro p taken
    have told := counted_told (perm.mem_iff.mp taken)
    rw [told.2, timesOf_eq, List.count_eq_countP]
    apply List.countP_congr
    intro kind member
    simp only [decide_eq_true_eq, beq_iff_eq]
    constructor
    · exact fun here => apart kind member p.kind told.1 here
    · intro here
      rw [here, CountedPlan.key_eq]
  · have distinct : ((ofPlans plans).counted.map CountedPlan.kind).Perm (kindsOf plans).dedup := by
      apply (List.perm_ext_iff_of_nodup once (List.nodup_dedup _)).mpr
      intro kind
      rw [same, List.mem_dedup]
    rw [← distinct.length_eq, List.length_map, counted, List.length_map]

theorem keysApart_of_plain {plans : List Json}
    (plain : ∀ kind ∈ kindsOf plans, '.' ∉ kind.1.toList ∧ '.' ∉ kind.2.1.toList) :
    KeysApart plans := by
  have text : ∀ kind : PlanKind,
      kind.key.toList = kind.1.toList ++ '.' :: (kind.2.1.toList ++ '.' :: kind.2.2.toList) := by
    intro kind
    simp [PlanKind.key]
  intro a first b second same
  have whole := congrArg String.toList same
  rw [text, text] at whole
  obtain ⟨ns_plain, name_plain⟩ := plain _ first
  obtain ⟨ns_plain', name_plain'⟩ := plain _ second
  obtain ⟨ns_same, rest⟩ := Text.parts_of_joined ns_plain ns_plain' whole
  obtain ⟨name_same, csv_same⟩ := Text.parts_of_joined name_plain name_plain' rest
  exact Prod.ext (String.toList_injective ns_same)
    (Prod.ext (String.toList_injective name_same) (String.toList_injective csv_same))

/-- Where there are places for all kinds, a report counts each plan that was added, once, under the
kind of the first plan that has its text. It tells the plans by their kinds exactly when the texts
tell the kinds apart; they do if no namespace and no name has a dot. -/
theorem report_tells_kinds (plans : List Json) (limit : Nat)
    (places : (kindsOf plans).dedup.length ≤ limit) :
    let c := ofPlans plans
    (c.report limit).get? "items" = some (.arr ((c.top limit).map CountedPlan.toJson)) ∧
    (c.report limit).walk? ["stats", "TOTAL_COUNT"] = some (.int plans.length) ∧
    (c.report limit).walk? ["stats", "TOTAL_NONUNIQ_COUNT"] = some (.int c.plans.length) ∧
    ((c.top limit).map CountedPlan.count).sum = plans.length ∧
    (∀ p ∈ c.top limit, p.kind ∈ kindsOf plans ∧ p.count = timesOf plans p.key) ∧
    (TellsKinds c limit (kindsOf plans) ↔ KeysApart plans) ∧
    ((∀ kind ∈ kindsOf plans, '.' ∉ kind.1.toList ∧ '.' ∉ kind.2.1.toList) → KeysApart plans) := by
  intro c
  have few : c.counted.length ≤ limit := Nat.le_trans (length_counted_le plans) places
  have perm := top_of_all few
  refine ⟨rfl, ?_, rfl, ?_, ?_, ⟨keysApart_of_tellsKinds few, tellsKinds_of_keysApart few⟩,
    keysApart_of_plain⟩
  · rw [← ofPlans_total]
    rfl
  · rw [(perm.map _).sum_nat]
    exact sum_counts plans
  · intro p taken
    exact counted_told (perm.mem_iff.mp taken)

def threePlans : List Json :=
  List.replicate 2 (installPlan "operators" "install-" ["etcd.v1"])
    ++ [installPlan "operators" "install-" []]

theorem threePlans_told :
    (kindsOf threePlans).dedup.length ≤ 2 ∧ TellsKinds (ofPlans threePlans) 2
    (kindsOf threePlans) := by
  have places : (kindsOf threePlans).dedup.length ≤ 2 := by decide +kernel
  obtain ⟨_, _, _, _, _, tells, plain⟩ := report_tells_kinds threePlans 2 places
  exact ⟨places, tells.mpr (plain (by decide +kernel))⟩

/-- Two plans with one text: where the name ends and the version begins is not to be seen. -/
def twoNames : List Json :=
  [installPlan "operators" "install" ["etcd.operator.v1"],
    installPlan "operators" "install.etcd" ["operator.v1"]]

/-- Two kinds of plans are counted as one. -/
theorem twoNames_merged : ¬ TellsKinds (ofPlans twoNames) 2 (kindsOf twoNames) := by
  intro tells
  have one : (ofPlans twoNames).plans.length = 1 := by decide +kernel
  have two : (kindsOf twoNames).dedup.length = 2 := by decide +kernel
  have distinct := tells.distinct
  omega

end ClusterSurvey.Survey
