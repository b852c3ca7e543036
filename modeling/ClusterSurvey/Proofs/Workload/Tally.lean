import ClusterSurvey.Workload.Fingerprint
import Mathlib.Algebra.GroupWithZero.Nat
import Mathlib.Data.List.Induction
import Mathlib.Data.List.Nodup

/-!
What a tally has of the pods that it looked at. They fall into groups, one for each run of pods of
one namespace; the tally has an entry for each group that is done, and the last group is the present
one. If the pods of each namespace stand together, no two groups have the same namespace, so an
entry tells of all pods of its namespace. The pod that shows that the limit is reached may have
opened a group without pods.
-/
namespace ClusterSurvey.Workload

namespace NamespacePods

def ofPods (pods : List Json) : NamespacePods := pods.foldl (fun p pod => (p.add pod).1) .empty

def shaped (p : NamespacePods) : Nat := (p.shapes.map fun s => 1 + s.duplicates).sum

/-- Each pod that was counted is in one of the four classes. -/
def Balanced (p : NamespacePods) : Prop := p.count = p.terminal + p.ignored + p.invalid + p.shaped

theorem addShape_fields (p : NamespacePods) (shape : PodShape) :
    (p.addShape shape).1 = { p with shapes := (p.addShape shape).1.shapes } := by
  unfold addShape
  split
  · split <;> rfl
  · rfl

theorem addShape_shaped (p : NamespacePods) {shape : PodShape} (single : shape.duplicates = 0) :
    (p.addShape shape).1.shaped = p.shaped + 1 := by
  unfold addShape shaped
  split
  · rename_i last rest here
    split
    · simp only [here, List.map_cons, List.sum_cons]
      omega
    · simp only [here, List.map_cons, List.sum_cons, single]
      omega
  · rename_i none
    simp [none, single]

theorem classify_single {pod : Json} {shape : PodShape} (shaped : classify pod = .shaped shape) :
    shape.duplicates = 0 := by
  unfold classify at shaped
  dsimp only at shaped
  split at shaped
  · cases shaped
  · split at shaped
    · cases shaped
    · split at shaped
      · cases shaped
      · split at shaped
        · cases shaped
          rfl
        · cases shaped

theorem add_count (p : NamespacePods) (pod : Json) : (p.add pod).1.count = p.count + 1 := by
  unfold add
  cases classify pod with
  | terminal => rfl
  | ignored => rfl
  | invalid => rfl
  | shaped shape =>
    dsimp only
    rw [addShape_fields]

theorem add_balanced {p : NamespacePods} (balanced : p.Balanced) (pod : Json) :
    (p.add pod).1.Balanced := by
  have counted := add_count p pod
  unfold Balanced at balanced ⊢
  rw [counted]
  unfold add
  cases class_ : classify pod with
  | terminal =>
    simp only [shaped] at balanced ⊢
    omega
  | ignored =>
    simp only [shaped] at balanced ⊢
    omega
  | invalid =>
    simp only [shaped] at balanced ⊢
    omega
  | shaped shape =>
    dsimp only
    rw [addShape_shaped _ (classify_single class_), addShape_fields]
    simp only [shaped] at balanced ⊢
    omega

theorem ofPods_concat (pods : List Json) (pod : Json) :
    ofPods (pods ++ [pod]) = ((ofPods pods).add pod).1 := by
  simp only [ofPods, List.foldl_append, List.foldl_cons, List.foldl_nil]

theorem ofPods_count (pods : List Json) : (ofPods pods).count = pods.length := by
  induction pods using List.reverseRecOn with
  | nil => rfl
  | append_singleton pods pod ih =>
    rw [ofPods_concat, add_count, ih, List.length_append, List.length_singleton]

theorem ofPods_balanced (pods : List Json) : (ofPods pods).Balanced := by
  induction pods using List.reverseRecOn with
  | nil => rfl
  | append_singleton pods pod ih =>
    rw [ofPods_concat]
    exact add_balanced ih pod

end NamespacePods

/-- Between two pods of a namespace there are only pods of that namespace. -/
def Grouped (pods : List Json) : Prop :=
  ∀ before a between b after, pods = before ++ a :: (between ++ b :: after) →
    a.namespaceOf = b.namespaceOf →
    ∀ pod ∈ between, pod.namespaceOf = a.namespaceOf

theorem Grouped.of_append {pods more : List Json} (grouped : Grouped (pods ++ more)) :
    Grouped pods := by
  intro before a between b after split
  apply grouped before a between b (after ++ more)
  rw [split]
  simp

structure Group where
  ns : String
  pods : List Json

namespace Group

def entry (g : Group) : String × NamespacePods := (hash g.ns, .ofPods g.pods)

/-- Opens a group for a pod of a namespace, unless the last group is of that namespace. The last
group stands first. -/
def opened (ns : String) : List Group → List Group
  | g :: closed => if g.ns = ns then g :: closed else ⟨ns, []⟩ :: g :: closed
  | [] => [⟨ns, []⟩]

def podsOf (groups : List Group) : List Json := groups.reverse.flatMap Group.pods

theorem podsOf_cons (g : Group) (closed : List Group) :
    podsOf (g :: closed) = podsOf closed ++ g.pods := by
  simp [podsOf]

theorem opened_same {ns : String} {g : Group} (same : g.ns = ns) (closed : List Group) :
    opened ns (g :: closed) = g :: closed := if_pos same

theorem opened_other {ns : String} {g : Group} (other : g.ns ≠ ns) (closed : List Group) :
    opened ns (g :: closed) = ⟨ns, []⟩ :: g :: closed := if_neg other

theorem podsOf_opened (ns : String) (groups : List Group) :
    podsOf (opened ns groups) = podsOf groups := by
  cases groups with
  | nil => rfl
  | cons g closed =>
    by_cases same : g.ns = ns
    · rw [opened_same same]
    · rw [opened_other same, podsOf_cons, List.append_nil]

theorem mem_opened {ns : String} {groups : List Group} {g : Group} (member : g ∈ opened ns groups) :
    g ∈ groups ∨ g = ⟨ns, []⟩ := by
  cases groups with
  | nil => exact Or.inr (List.mem_singleton.mp member)
  | cons last closed =>
    by_cases same : last.ns = ns
    · rw [opened_same same] at member
      exact Or.inl member
    · rw [opened_other same] at member
      exact (List.mem_cons.mp member).symm

theorem opened_eq_cons (ns : String) (groups : List Group) :
    ∃ g closed, opened ns groups = g :: closed ∧ g.ns = ns := by
  cases groups with
  | nil => exact ⟨_, _, rfl, rfl⟩
  | cons last closed =>
    by_cases same : last.ns = ns
    · exact ⟨last, closed, opened_same same closed, same⟩
    · exact ⟨_, _, opened_other same closed, rfl⟩

theorem mem_podsOf {groups : List Group} {pod : Json} (member : pod ∈ podsOf groups) :
    ∃ g ∈ groups, pod ∈ g.pods := by
  obtain ⟨g, inside, here⟩ := List.mem_flatMap.mp member
  exact ⟨g, List.mem_reverse.mp inside, here⟩

theorem mem_podsOf_of_mem {groups : List Group} {g : Group} (member : g ∈ groups) {pod : Json}
    (here : pod ∈ g.pods) :
    pod ∈ podsOf groups :=
  List.mem_flatMap.mpr ⟨g, List.mem_reverse.mpr member, here⟩

theorem filter_podsOf {groups : List Group}
    (belongs : ∀ g ∈ groups, ∀ pod ∈ g.pods, pod.namespaceOf = g.ns)
    (apart : (groups.map Group.ns).Nodup) {g : Group} (member : g ∈ groups) :
    (podsOf groups).filter (fun pod => pod.namespaceOf = g.ns) = g.pods := by
  have all : ∀ h ∈ groups, h.ns = g.ns →
      h.pods.filter (fun pod => pod.namespaceOf = g.ns) = h.pods := by
    intro h inside same
    apply List.filter_eq_self.mpr
    intro pod here
    exact decide_eq_true ((belongs h inside pod here).trans same)
  have none : ∀ h ∈ groups, h.ns ≠ g.ns →
      h.pods.filter (fun pod => pod.namespaceOf = g.ns) = [] := by
    intro h inside other
    apply List.filter_eq_nil_iff.mpr
    intro pod here same
    exact other ((belongs h inside pod here).symm.trans (of_decide_eq_true same))
  clear belongs
  induction groups with
  | nil => cases member
  | cons h closed ih =>
    obtain ⟨fresh, later⟩ := List.nodup_cons.mp apart
    rw [podsOf_cons, List.filter_append]
    rcases List.mem_cons.mp member with rfl | inside
    · have others : (podsOf closed).filter (fun pod => pod.namespaceOf = g.ns) = [] := by
        rw [podsOf, List.filter_flatMap]
        apply List.flatMap_eq_nil_iff.mpr
        intro k behind
        apply none k (List.mem_cons_of_mem _ (List.mem_reverse.mp behind))
        intro same
        exact fresh (same ▸ List.mem_map_of_mem (List.mem_reverse.mp behind))
      rw [others, all g List.mem_cons_self rfl, List.nil_append]
    · have other : h.ns ≠ g.ns := by
        intro same
        exact fresh (same ▸ List.mem_map_of_mem inside)
      rw [none h List.mem_cons_self other, List.append_nil]
      exact ih later inside (fun k behind => all k (List.mem_cons_of_mem _ behind))
        fun k behind => none k (List.mem_cons_of_mem _ behind)

end Group

namespace Tally

def limitPassed (pods : List Json) : Bool := decide (maxPods < pods.length)

/-- What a tally has of the first of some pods, in groups of which the last stands first. -/
structure Holds (t : Tally) (groups : List Group) : Prop where
  present : t.present = groups.head?.map fun g => (g.ns, .ofPods g.pods)
  done : t.done = groups.tail.map Group.entry
  counted : t.counted = (Group.podsOf groups.tail).length

structure Partition (groups : List Group) (pods : List Json) : Prop where
  whole : Group.podsOf groups = pods.take maxPods
  belongs : ∀ g ∈ groups, ∀ pod ∈ g.pods, pod.namespaceOf = g.ns
  apart : (groups.map Group.ns).Nodup
  occurs : ∀ g ∈ groups, ∃ pod ∈ pods, pod.namespaceOf = g.ns
  filled : limitPassed pods = false → ∀ g ∈ groups, g.pods ≠ []

def opened (ns : String) (t : Tally) : Tally :=
  match t.present with
  | some (name, _) => if name = ns then t else { t.close with present := some (ns, .empty) }
  | none => { t with present := some (ns, .empty) }

def counting (pod : Json) (t : Tally) : Tally :=
  match t.present with
  | none => t
  | some (name, pods) =>
    if maxPods ≤ t.counted + pods.count then { t with limitReached := true }
    else { t with present := some (name,
      (pods.add pod).1), images := addImages t.images (pods.add pod).2 }

theorem add_of_limit {t : Tally} (reached : t.limitReached = true) (pod : Json) :
    t.add pod = t := by
  simp [add, reached]

theorem add_eq {t : Tally} (open_ : t.limitReached = false) (pod : Json) :
    t.add pod = (t.opened pod.namespaceOf).counting pod := by
  have step : t.add pod = if t.limitReached then t else (t.opened pod.namespaceOf).counting pod :=
    rfl
  rw [step, open_, if_neg Bool.false_ne_true]

theorem foldl_add_of_limit {t : Tally} (reached : t.limitReached = true) (pods : List Json) :
    pods.foldl add t = t := by
  induction pods with
  | nil => rfl
  | cons pod rest ih => rw [List.foldl_cons, add_of_limit reached, ih]

theorem opened_limitReached (ns : String) (t : Tally) :
    (t.opened ns).limitReached = t.limitReached := by
  unfold opened
  split
  · split
    · rfl
    · unfold close
      split <;> rfl
  · rfl

theorem Holds.close {t : Tally} {groups : List Group} (holds : t.Holds groups) :
    t.close.done = groups.map Group.entry ∧ t.close.counted = (Group.podsOf groups).length ∧
      t.close.limitReached = t.limitReached := by
  obtain ⟨present, done, counted⟩ := holds
  unfold Tally.close
  cases groups with
  | nil =>
    simp only [List.head?_nil, Option.map_none] at present
    rw [present]
    exact ⟨done, counted, rfl⟩
  | cons g closed =>
    simp only [List.head?_cons, Option.map_some] at present
    rw [present]
    dsimp only
    refine ⟨?_, ?_, rfl⟩
    · rw [done]
      rfl
    · rw [counted, NamespacePods.ofPods_count, Group.podsOf_cons,
        List.length_append, List.tail_cons]

theorem Holds.opened {t : Tally} {groups : List Group} (holds : t.Holds groups) (ns : String) :
    (t.opened ns).Holds (Group.opened ns groups) := by
  obtain ⟨done, counted, _⟩ := holds.close
  have present := holds.present
  unfold Tally.opened
  cases groups with
  | nil =>
    simp only [List.head?_nil, Option.map_none] at present
    rw [present]
    exact ⟨rfl, holds.done, holds.counted⟩
  | cons g closed =>
    simp only [List.head?_cons, Option.map_some] at present
    rw [present]
    dsimp only
    by_cases same : g.ns = ns
    · rw [if_pos same, Group.opened_same same]
      exact holds
    · rw [if_neg same, Group.opened_other same]
      exact ⟨rfl, done, counted⟩

theorem Holds.count {t : Tally} {g : Group} {closed : List Group} (holds : t.Holds (g :: closed)) :
    t.counted + (NamespacePods.ofPods g.pods).count = (Group.podsOf (g :: closed)).length := by
  rw [holds.counted, NamespacePods.ofPods_count, Group.podsOf_cons,
    List.length_append, List.tail_cons]

theorem Holds.counting {t : Tally} {g : Group} {closed : List Group}
    (holds : t.Holds (g :: closed)) (pod : Json) :
    ((t.counting pod).Holds (g :: closed) ∧ (t.counting pod).limitReached = true ∧
        maxPods ≤ (Group.podsOf (g :: closed)).length) ∨
      (t.counting pod).Holds (⟨g.ns, g.pods ++ [pod]⟩ :: closed) ∧
        (t.counting pod).limitReached = t.limitReached ∧
        (Group.podsOf (g :: closed)).length < maxPods := by
  have count := holds.count
  have present := holds.present
  simp only [List.head?_cons, Option.map_some] at present
  unfold Tally.counting
  rw [present]
  dsimp only
  rw [count]
  by_cases full : maxPods ≤ (Group.podsOf (g :: closed)).length
  · left
    rw [if_pos full]
    exact ⟨⟨rfl, holds.done, holds.counted⟩, rfl, full⟩
  · right
    rw [if_neg full]
    refine ⟨⟨?_, holds.done, holds.counted⟩, rfl, by omega⟩
    simp only [List.head?_cons, Option.map_some]
    rw [NamespacePods.ofPods_concat]

theorem opened_apart {groups : List Group} {pods : List Json} {pod : Json}
    (belongs : ∀ g ∈ groups, ∀ pod ∈ g.pods, pod.namespaceOf = g.ns)
    (filled : ∀ g ∈ groups, g.pods ≠ []) (apart : (groups.map Group.ns).Nodup)
    (whole : Group.podsOf groups = pods) (grouped : Grouped (pods ++ [pod])) :
    ((Group.opened pod.namespaceOf groups).map Group.ns).Nodup := by
  cases groups with
  | nil => simp [Group.opened]
  | cons last closed =>
    by_cases same : last.ns = pod.namespaceOf
    · rw [Group.opened_same same]
      exact apart
    · rw [Group.opened_other same]
      apply List.nodup_cons.mpr
      refine ⟨?_, apart⟩
      intro again
      obtain ⟨g, member, here⟩ := List.mem_map.mp again
      rcases List.mem_cons.mp member with rfl | behind
      · exact same here
      · -- A pod of the last group would stand between two pods of the namespace.
        obtain ⟨a, first⟩ := List.exists_mem_of_ne_nil _ (filled g member)
        obtain ⟨x, inside⟩ := List.exists_mem_of_ne_nil _ (filled last List.mem_cons_self)
        obtain ⟨before, rest, split⟩ := List.append_of_mem (Group.mem_podsOf_of_mem behind first)
        have nsA := belongs g member a first
        have between := grouped before a (rest ++ last.pods) pod [] (by
          rw [← whole, Group.podsOf_cons, split]
          simp) (nsA.trans here) x (List.mem_append_right _ inside)
        have nsX := belongs last List.mem_cons_self x inside
        exact same (nsX.symm.trans (between.trans (nsA.trans here)))

theorem length_le_of_unpassed {pods : List Json} (unpassed : limitPassed pods = false) :
    pods.length ≤ maxPods :=
  Nat.not_lt.mp (of_decide_eq_false unpassed)

theorem limitPassed_concat (pods : List Json) (pod : Json) :
    limitPassed (pods ++ [pod]) = decide (maxPods ≤ pods.length) := by
  rw [limitPassed, List.length_append, List.length_singleton]
  exact decide_eq_decide.mpr Nat.lt_succ_iff

theorem limitPassed_concat_of_passed {pods : List Json} (passed : limitPassed pods = true)
    (pod : Json) : limitPassed (pods ++ [pod]) = true := by
  rw [limitPassed_concat]
  exact decide_eq_true (Nat.le_of_lt (of_decide_eq_true passed))

theorem Partition.concat_limited {groups : List Group} {pods : List Json}
    (partition : Partition groups pods) (passed : limitPassed pods = true) (pod : Json) :
    Partition groups (pods ++ [pod]) := by
  have less := of_decide_eq_true passed
  refine ⟨?_, partition.belongs, partition.apart, ?_, ?_⟩
  · rw [partition.whole, List.take_append_of_le_length (by omega)]
  · intro g member
    obtain ⟨a, inside, here⟩ := partition.occurs g member
    exact ⟨a, List.mem_append_left _ inside, here⟩
  · intro unpassed
    rw [limitPassed_concat_of_passed passed] at unpassed
    cases unpassed

/-- The groups of some pods when one is open for the pod behind them, which is not in it yet. -/
structure Opening (pods : List Json) (pod : Json) (g : Group) (closed : List Group) : Prop where
  whole : Group.podsOf (g :: closed) = pods
  ns : g.ns = pod.namespaceOf
  belongs : ∀ h ∈ g :: closed, ∀ a ∈ h.pods, a.namespaceOf = h.ns
  apart : ((g :: closed).map Group.ns).Nodup
  occurs : ∀ h ∈ g :: closed, ∃ a ∈ pods ++ [pod], a.namespaceOf = h.ns
  filled : ∀ h ∈ closed, h.pods ≠ []

theorem Partition.opening {groups : List Group} {pods : List Json} {pod : Json}
    (partition : Partition groups pods) (unpassed : limitPassed pods = false)
    (grouped : Grouped (pods ++ [pod])) :
    ∃ g closed, Group.opened pod.namespaceOf groups = g :: closed ∧
      Opening pods pod g closed := by
  have whole : Group.podsOf groups = pods := by
    rw [partition.whole, List.take_of_length_le (length_le_of_unpassed unpassed)]
  have filled := partition.filled unpassed
  have apart := opened_apart partition.belongs filled partition.apart whole grouped
  obtain ⟨g, closed, split, ns⟩ := Group.opened_eq_cons pod.namespaceOf groups
  refine ⟨g, closed, split, ?whole, ns, ?belongs, split ▸ apart, ?occurs, ?filled⟩
  case whole => rw [← split, Group.podsOf_opened, whole]
  case belongs =>
    intro h member a inside
    rcases Group.mem_opened (split ▸ member) with old | rfl
    · exact partition.belongs h old a inside
    · cases inside
  case occurs =>
    intro h member
    rcases Group.mem_opened (split ▸ member) with old | rfl
    · obtain ⟨a, inside, here⟩ := partition.occurs h old
      exact ⟨a, List.mem_append_left _ inside, here⟩
    · exact ⟨pod, List.mem_append_right _ (List.mem_singleton_self pod), rfl⟩
  case filled =>
    intro h member
    rcases Group.mem_opened (split ▸ List.mem_cons_of_mem g member) with old | rfl
    · exact filled h old
    · rw [split, List.map_cons, List.nodup_cons] at apart
      exact absurd (ns ▸ List.mem_map_of_mem (f := Group.ns) member) apart.1

theorem Opening.left_out {pods : List Json} {pod : Json} {g : Group} {closed : List Group}
    (opening : Opening pods pod g closed) (full : pods.length = maxPods) :
    Partition (g :: closed) (pods ++ [pod]) := by
  refine ⟨?_, opening.belongs, opening.apart, opening.occurs, ?_⟩
  · rw [opening.whole, ← full, List.take_left]
  · intro unpassed
    rw [limitPassed_concat, full, decide_eq_true (Nat.le_refl _)] at unpassed
    cases unpassed

theorem Opening.taken {pods : List Json} {pod : Json} {g : Group} {closed : List Group}
    (opening : Opening pods pod g closed) (room : pods.length < maxPods) :
    Partition (⟨g.ns, g.pods ++ [pod]⟩ :: closed) (pods ++ [pod]) := by
  have whole := opening.whole
  refine ⟨?whole, ?belongs, opening.apart, ?occurs, ?filled⟩
  case whole =>
    rw [Group.podsOf_cons] at whole ⊢
    rw [← List.append_assoc, whole, List.take_of_length_le]
    rw [List.length_append, List.length_singleton]
    exact room
  case belongs =>
    intro h member a inside
    rcases List.mem_cons.mp member with rfl | behind
    · rcases List.mem_append.mp inside with old | new
      · exact opening.belongs g List.mem_cons_self a old
      · rw [List.mem_singleton.mp new, opening.ns]
    · exact opening.belongs h (List.mem_cons_of_mem _ behind) a inside
  case occurs =>
    intro h member
    rcases List.mem_cons.mp member with rfl | behind
    · exact opening.occurs g List.mem_cons_self
    · exact opening.occurs h (List.mem_cons_of_mem _ behind)
  case filled =>
    intro _ h member
    rcases List.mem_cons.mp member with rfl | behind
    · exact List.append_ne_nil_of_right_ne_nil _ (List.cons_ne_nil pod [])
    · exact opening.filled h behind

/-- The pods that were looked at, up to the limit, fall into groups that the tally has, and the
tally knows whether there were more. -/
theorem exists_partition {pods : List Json} (grouped : Grouped pods) :
    ∃ groups, Partition groups pods ∧ (pods.foldl add start).Holds groups ∧
      (pods.foldl add start).limitReached = limitPassed pods := by
  induction pods using List.reverseRecOn with
  | nil => exact ⟨[], ⟨rfl, by simp, by simp, by simp, by simp⟩, ⟨rfl, rfl, rfl⟩, rfl⟩
  | append_singleton pods pod ih =>
    obtain ⟨groups, partition, holds, reached⟩ := ih grouped.of_append
    rw [List.foldl_append, List.foldl_cons, List.foldl_nil]
    generalize pods.foldl add start = t at holds reached
    cases passed : limitPassed pods with
    | true =>
      rw [passed] at reached
      rw [add_of_limit reached, limitPassed_concat_of_passed passed]
      exact ⟨groups, partition.concat_limited passed pod, holds, reached⟩
    | false =>
      rw [passed] at reached
      rw [add_eq reached, limitPassed_concat]
      obtain ⟨g, closed, split, opening⟩ := partition.opening passed grouped
      have opened := holds.opened pod.namespaceOf
      rw [split] at opened
      have counting := opened.counting pod
      rw [opening.whole, opened_limitReached, reached] at counting
      rcases counting with ⟨kept, limit, full⟩ | ⟨more, unlimited, room⟩
      · have same := Nat.le_antisymm (length_le_of_unpassed passed) full
        exact ⟨_, opening.left_out same, kept, limit.trans (decide_eq_true full).symm⟩
      · exact ⟨_, opening.taken room, more,
          unlimited.trans (decide_eq_false (Nat.not_le.mpr room)).symm⟩

/-! What the limit does, however the pods stand. -/

def atLimit (t : Tally) : Tally := { t with limitReached := true }

theorem opened_cases (ns : String) (t : Tally) :
    (∃ p, t.present = some (ns, p) ∧ t.opened ns = t) ∨
      t.present.map (fun e => e.1) ≠ some ns ∧
        t.opened ns = { t.close with present := some (ns, .empty) } := by
  unfold opened
  cases here : t.present with
  | none =>
    right
    have closed : t.close = t := by
      unfold close
      rw [here]
    rw [closed]
    exact ⟨by simp, rfl⟩
  | some e =>
    obtain ⟨name, p⟩ := e
    dsimp only
    by_cases same : name = ns
    · rw [if_pos same, same]
      exact Or.inl ⟨p, rfl, rfl⟩
    · rw [if_neg same]
      exact Or.inr ⟨by simpa using same, rfl⟩

theorem close_limitReached (t : Tally) : t.close.limitReached = t.limitReached := by
  unfold close
  split <;> rfl

theorem close_present (t : Tally) : t.close.present = none := by
  unfold close
  split
  · rfl
  · assumption

theorem close_of_present {t : Tally} {ns : String} {p : NamespacePods}
    (present : t.present = some (ns, p)) :
    t.close =
      { t with done := (hash ns,
        p) :: t.done, counted := t.counted + p.count, present := none } := by
  unfold close
  rw [present]

theorem opened_counted (ns : String) (t : Tally) :
    ∃ p, (t.opened ns).present = some (ns, p) ∧
      (t.opened ns).counted + p.count = t.close.counted := by
  rcases opened_cases ns t with ⟨p, present, same⟩ | ⟨_, fresh⟩
  · rw [same, close_of_present present]
    exact ⟨p, present, rfl⟩
  · rw [fresh]
    exact ⟨.empty, rfl, rfl⟩

theorem add_within {t : Tally} (open_ : t.limitReached = false)
    (room : t.close.counted < maxPods) (pod : Json) :
    ∃ p, (t.opened pod.namespaceOf).present = some (pod.namespaceOf, p) ∧
      t.add pod = { t.opened pod.namespaceOf with
        present := some (pod.namespaceOf, (p.add pod).1)
        images := addImages (t.opened pod.namespaceOf).images (p.add pod).2 } := by
  obtain ⟨p, present, counted⟩ := opened_counted pod.namespaceOf t
  refine ⟨p, present, ?_⟩
  rw [add_eq open_, counting, present]
  dsimp only
  rw [counted, if_neg (Nat.not_le_of_lt room)]

theorem add_full {t : Tally} (open_ : t.limitReached = false)
    (full : maxPods ≤ t.close.counted) (pod : Json) :
    t.add pod = (t.opened pod.namespaceOf).atLimit := by
  obtain ⟨p, present, counted⟩ := opened_counted pod.namespaceOf t
  rw [add_eq open_, counting, present]
  dsimp only
  rw [counted, if_pos full, atLimit, present]

theorem foldl_add_within {pods : List Json} (within : pods.length ≤ maxPods) :
    (pods.foldl add start).limitReached = false ∧
    (pods.foldl add start).close.counted = pods.length := by
  induction pods using List.reverseRecOn with
  | nil => exact ⟨rfl, rfl⟩
  | append_singleton pods pod ih =>
    rw [List.length_append, List.length_singleton] at within ⊢
    obtain ⟨open_, counted⟩ := ih (by omega)
    rw [List.foldl_append, List.foldl_cons, List.foldl_nil]
    obtain ⟨p, present, added⟩ := add_within open_ (by omega) pod
    obtain ⟨p', present', before⟩ := opened_counted pod.namespaceOf (pods.foldl add start)
    cases present.symm.trans present'
    rw [added, close_of_present rfl]
    dsimp only
    rw [NamespacePods.add_count]
    exact ⟨(opened_limitReached _ _).trans open_, by omega⟩

theorem exists_beyond {pods : List Json} (more : maxPods < pods.length) :
    ∃ next behind, pods = pods.take maxPods ++ next :: behind := by
  refine ⟨pods[maxPods], pods.drop (maxPods + 1), ?_⟩
  rw [List.getElem_cons_drop, List.take_append_drop]

theorem foldl_add_beyond {first : List Json} (full : first.length = maxPods) (pod : Json)
    (rest : List Json) :
    (first ++ pod :: rest).foldl add start =
    ((first.foldl add start).opened pod.namespaceOf).atLimit := by
  obtain ⟨open_, counted⟩ := foldl_add_within (Nat.le_of_eq full)
  rw [List.foldl_append, List.foldl_cons, add_full open_ (by omega), foldl_add_of_limit rfl]

theorem counted_close (pods : List Json) :
    (pods.foldl add start).close.counted = (pods.take maxPods).length := by
  by_cases within : pods.length ≤ maxPods
  · rw [List.take_of_length_le within]
    exact (foldl_add_within within).2
  · obtain ⟨next, behind, listing⟩ := exists_beyond (Nat.lt_of_not_le within)
    have full : (pods.take maxPods).length = maxPods :=
      List.length_take_of_le (Nat.le_of_not_le within)
    have beyond := foldl_add_beyond full next behind
    rw [← listing] at beyond
    obtain ⟨p, present, counted⟩ :=
      opened_counted next.namespaceOf ((pods.take maxPods).foldl add start)
    rw [beyond, close_of_present (t := atLimit _) present]
    exact counted.trans (foldl_add_within (Nat.le_of_eq full)).2

end Tally

end ClusterSurvey.Workload
