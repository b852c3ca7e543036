import ClusterSurvey.Proofs.Keyed
import ClusterSurvey.Proofs.Messages
import ClusterSurvey.Registry
import Mathlib.Data.List.Induction
import Mathlib.Data.List.Nodup

/-!
A registry as values by key: the tasks under their names. Registering is an insertion there, so the
names ascend whatever was registered. A request counts each name once, where it comes first: no two
of the tasks that a run selects have one name. What a registry has under a name is told by its
history: the task that was registered last, unless the name was left out since. So a request is
parted into the standing tasks of its names and the names that have none.
-/
namespace ClusterSurvey.Registry

variable {ρ : Type}

def byName (tasks : List (Task ρ)) : List (String × Task ρ) := tasks.map fun t => (t.name, t)

def Ordered (r : Registry ρ) : Prop := Keyed.Ascending (byName r.tasks)

theorem byName_insert (t : Task ρ) (tasks : List (Task ρ)) :
    byName (insert t tasks) = Keyed.insert t.name t (byName tasks) := by
  induction tasks with
  | nil => rfl
  | cons u rest ih =>
    simp only [insert, byName, List.map_cons, Keyed.insert] at ih ⊢
    split
    · rfl
    · split
      · rfl
      · rw [List.map_cons, ih]

theorem empty_ordered : (empty : Registry ρ).Ordered := List.Pairwise.nil

theorem register_ordered {r : Registry ρ} (ordered : r.Ordered) (t : Task ρ) :
    (r.register t).Ordered := by
  rw [Ordered, register, byName_insert]
  exact Keyed.ascending_insert ordered t.name t

theorem ofList_ordered (tasks : List (Task ρ)) : (ofList tasks).Ordered := by
  have run : ∀ r : Registry ρ, r.Ordered → (tasks.foldl register r).Ordered := by
    induction tasks with
    | nil => exact fun _ ordered => ordered
    | cons t rest ih => exact fun r ordered => ih _ (register_ordered ordered t)
  exact run empty empty_ordered

theorem filter_ordered {r : Registry ρ} (ordered : r.Ordered) (allowed : List String) :
    (r.filter allowed).Ordered :=
  ordered.sublist (List.filter_sublist.map _)

theorem names_ascending {r : Registry ρ} (ordered : r.Ordered) :
    (r.tasks.map Task.name).Pairwise (· < ·) := by
  rw [Ordered, Keyed.Ascending, byName, List.pairwise_map] at ordered
  exact List.pairwise_map.mpr ordered

theorem name_of_get? {r : Registry ρ} {name : String} {t : Task ρ} (found : r.get? name = some t) :
    t.name = name := by
  have here := List.find?_some found
  simpa using here

theorem get?_eq_none_iff {r : Registry ρ} {name : String} :
    r.get? name = none ↔ name ∉ r.names := by
  simp [get?, names]

/-! What a request selects. -/

/-- The tasks of some names, and the names that no task has. -/
def Selection.ofNames (r : Registry ρ) (names : List String) : Selection ρ :=
  ⟨names.filterMap r.get?, names.filter fun n => (r.get? n).isNone⟩

theorem seen_ofNames_iff (r : Registry ρ) (names : List String) (name : String) :
    ((Selection.ofNames r names).selected.any (·.name = name) = true ∨
      name ∈ (Selection.ofNames r names).unknown) ↔
      name ∈ names := by
  rw [Selection.ofNames, List.any_eq_true, List.mem_filter]
  constructor
  · rintro (⟨t, member, named⟩ | ⟨member, _⟩)
    · obtain ⟨n, there, found⟩ := List.mem_filterMap.mp member
      rw [← of_decide_eq_true named, name_of_get? found]
      exact there
    · exact member
  · intro member
    cases found : r.get? name with
    | none => exact Or.inr ⟨member, rfl⟩
    | some t =>
        exact Or.inl ⟨t, List.mem_filterMap.mpr ⟨name, member, found⟩,
          decide_eq_true (name_of_get? found)⟩

theorem add_ofNames (r : Registry ρ) (names : List String) (name : String) :
    (Selection.ofNames r names.eraseDups).add r name = .ofNames r (names ++ [name]).eraseDups := by
  have seen := seen_ofNames_iff r names.eraseDups name
  rw [List.mem_eraseDups] at seen
  rw [Selection.add, eraseDups_concat]
  by_cases known : name ∈ names
  · rw [if_pos (seen.mpr known), if_pos known]
  · rw [if_neg (mt seen.mp known), if_neg known]
    simp only [Selection.ofNames, List.filterMap_append, List.filter_append]
    cases found : r.get? name with
    | none => simp [found]
    | some t => simp [found]

theorem resolve_eq (r : Registry ρ) {names : List String} (notAll : allTasks ∉ names) :
    r.resolve names = .ofNames r names.eraseDups := by
  rw [resolve, if_neg notAll]
  clear notAll
  induction names using List.reverseRecOn with
  | nil => rfl
  | append_singleton names name ih =>
    rw [List.foldl_append, List.foldl_cons, List.foldl_nil, ih, add_ofNames]

theorem map_name_filterMap_get? (r : Registry ρ) (names : List String) :
    (names.filterMap r.get?).map Task.name = names.filter fun n => (r.get? n).isSome := by
  induction names with
  | nil => rfl
  | cons n rest ih =>
    cases found : r.get? n with
    | none => simp [found, ih]
    | some t => simp [found, ih, name_of_get? found]

theorem resolve_names_nodup {r : Registry ρ} (ordered : r.Ordered) (names : List String) :
    ((r.resolve names).selected.map (·.name)).Nodup := by
  by_cases all : allTasks ∈ names
  · rw [resolve, if_pos all]
    exact (names_ascending ordered).imp fun less => ne_of_lt less
  · rw [resolve_eq _ all, Selection.ofNames, map_name_filterMap_get?]
    exact (eraseDups_nodup names).filter _

theorem mem_resolve_unknown_iff {r : Registry ρ} {names : List String}
    (some : allTasks ∉ names) (m : String) :
    m ∈ (r.resolve names).unknown ↔ m ∈ names ∧ m ∉ r.names := by
  rw [resolve_eq _ some, Selection.ofNames, List.mem_filter, List.mem_eraseDups,
    Option.isNone_iff_eq_none, get?_eq_none_iff]

/-! The history of a registry. -/

inductive Change (ρ : Type) where
  | register (t : Task ρ)
  | filter (allowed : List String)

def Change.apply (r : Registry ρ) : Change ρ → Registry ρ
  | .register t => r.register t
  | .filter allowed => r.filter allowed

/-- Whether a change leaves the task of a name in place. -/
def Change.Spares (name : String) : Change ρ → Prop
  | .register t => t.name ≠ name
  | .filter allowed => name ∈ allowed

def ofHistory (changes : List (Change ρ)) : Registry ρ := changes.foldl Change.apply empty

/-- The task was registered, and since then it was neither replaced nor taken out. -/
def Standing (changes : List (Change ρ)) (t : Task ρ) : Prop :=
  ∃ before after, changes = before ++ .register t :: after ∧ ∀ c ∈ after, c.Spares t.name

theorem ofHistory_concat (changes : List (Change ρ)) (c : Change ρ) :
    ofHistory (changes ++ [c]) = c.apply (ofHistory changes) := by
  simp only [ofHistory, List.foldl_append, List.foldl_cons, List.foldl_nil]

theorem ofHistory_ordered (changes : List (Change ρ)) : (ofHistory changes).Ordered := by
  induction changes using List.reverseRecOn with
  | nil => exact empty_ordered
  | append_singleton changes c ih =>
    rw [ofHistory_concat]
    cases c with
    | register t => exact register_ordered ih t
    | filter allowed => exact filter_ordered ih allowed

/-! What stands in a registry after some changes. -/

theorem get?_eq_lookup (r : Registry ρ) (name : String) :
    r.get? name = (byName r.tasks).lookup name := by
  obtain ⟨tasks⟩ := r
  induction tasks with
  | nil => rfl
  | cons t rest ih =>
    simp only [get?, byName, List.map_cons, Keyed.lookup_cons] at ih ⊢
    rw [List.find?_cons, ih]
    by_cases here : t.name = name <;> simp [here]

theorem byName_filter (tasks : List (Task ρ)) (allowed : List String) :
    byName (tasks.filter fun t => allowed.contains t.name) = (byName tasks).filter fun p =>
      allowed.contains p.1 := by
  rw [byName, byName, List.filter_map]
  rfl

theorem get?_register (r : Registry ρ) (t : Task ρ) (name : String) :
    (r.register t).get? name = if t.name = name then some t else r.get? name := by
  rw [get?_eq_lookup, get?_eq_lookup, register, byName_insert]
  split
  · rename_i same
    rw [← same, Keyed.lookup_insert_self]
  · rename_i other
    rw [Keyed.lookup_insert_of_ne (Ne.symm other)]

theorem get?_filter (r : Registry ρ) (allowed : List String) (name : String) :
    (r.filter allowed).get? name = if name ∈ allowed then r.get? name else none := by
  rw [get?_eq_lookup, get?_eq_lookup, filter, byName_filter, Keyed.lookup_filter_keys]
  simp only [List.contains_iff_mem]

theorem standing_concat {changes : List (Change ρ)} {c : Change ρ} {t : Task ρ} :
    Standing (changes ++ [c]) t ↔ c = .register t ∨ Standing changes t ∧ c.Spares t.name := by
  constructor
  · rintro ⟨before, after, whole, spared⟩
    -- The last change is the registration itself, or one of those that came after it.
    induction after using List.reverseRecOn with
    | nil =>
      obtain ⟨_, last⟩ := List.append_inj' whole rfl
      exact Or.inl (List.head_eq_of_cons_eq last)
    | append_singleton after d _ =>
      rw [← List.cons_append, ← List.append_assoc] at whole
      obtain ⟨first, last⟩ := List.append_inj' whole rfl
      obtain ⟨between, here⟩ := List.forall_mem_append.mp spared
      rw [List.head_eq_of_cons_eq last]
      exact Or.inr ⟨⟨before, after, first, between⟩, here d List.mem_cons_self⟩
  · rintro (rfl | ⟨⟨before, after, rfl, spared⟩, here⟩)
    · exact ⟨changes, [], rfl, List.forall_mem_nil _⟩
    · exact ⟨before, after ++ [c],
        by simp, List.forall_mem_append.mpr ⟨spared, by simpa using here⟩⟩

theorem get?_apply {r : Registry ρ} {c : Change ρ} {name : String} {t : Task ρ} :
    (c.apply r).get? name = some t ↔ c = .register t ∧ t.name = name ∨ r.get? name = some t ∧
      c.Spares name := by
  cases c with
  | register u =>
    rw [Change.apply, get?_register, Change.register.injEq, Change.Spares]
    by_cases same : u.name = name
    · rw [if_pos same, Option.some.injEq]
      constructor
      · rintro rfl
        exact Or.inl ⟨rfl, same⟩
      · rintro (⟨here, _⟩ | ⟨_, other⟩)
        · exact here
        · exact absurd same other
    · rw [if_neg same]
      constructor
      · exact fun before => Or.inr ⟨before, same⟩
      · rintro (⟨rfl, here⟩ | ⟨before, _⟩)
        · exact absurd here same
        · exact before
  | filter allowed =>
    rw [Change.apply, get?_filter, Change.Spares]
    by_cases kept : name ∈ allowed
    · simp [kept]
    · simp [kept]

/-- What a registry has under a name is the task of that name that stands in its history. -/
theorem get?_ofHistory {changes : List (Change ρ)} {name : String} {t : Task ρ} :
    (ofHistory changes).get? name = some t ↔ Standing changes t ∧ t.name = name := by
  induction changes using List.reverseRecOn with
  | nil => simp [ofHistory, empty, get?, Standing]
  | append_singleton changes c ih =>
    rw [ofHistory_concat, get?_apply, ih, standing_concat]
    constructor
    · rintro (⟨last, rfl⟩ | ⟨⟨before, rfl⟩, spared⟩)
      · exact ⟨Or.inl last, rfl⟩
      · exact ⟨Or.inr ⟨before, spared⟩, rfl⟩
    · rintro ⟨last | ⟨before, spared⟩, rfl⟩
      · exact Or.inl ⟨last, rfl⟩
      · exact Or.inr ⟨⟨before, rfl⟩, spared⟩

theorem mem_tasks_iff {r : Registry ρ} (ordered : r.Ordered) {t : Task ρ} :
    t ∈ r.tasks ↔ r.get? t.name = some t := by
  have apart : (r.tasks.map Task.name).Nodup :=
    (names_ascending ordered).imp fun less => ne_of_lt less
  rw [get?, Keyed.find?_key_eq_some_iff apart, and_iff_left rfl]

/-! Requests to a registry with a history. -/

/-- The requested names are those of the selected tasks and the unknown ones. Each is there once, in
the order in which they were first requested, and the tasks are those that stand in the history. -/
structure Parted (changes : List (Change ρ)) (names : List String) (s : Selection ρ) : Prop where
  once : (s.selected.map Task.name ++ s.unknown).Nodup
  selected_iff : ∀ name, name ∈ s.selected.map Task.name ↔
    name ∈ names ∧ ∃ t, Standing changes t ∧ t.name = name
  unknown_iff : ∀ name, name ∈ s.unknown ↔ name ∈ names ∧ ¬ ∃ t, Standing changes t ∧ t.name = name
  order : (s.selected.map Task.name).Sublist names.eraseDups ∧ s.unknown.Sublist names.eraseDups
  standing : ∀ t ∈ s.selected, Standing changes t

/-- All tasks that stand in the history are there, in ascending order of their names. -/
structure InFull (changes : List (Change ρ)) (s : Selection ρ) : Prop where
  standing_iff : ∀ t, t ∈ s.selected ↔ Standing changes t
  ascending : (s.selected.map Task.name).Pairwise (· < ·)
  unknown : s.unknown = []

theorem isSome_get?_iff {changes : List (Change ρ)} {name : String} :
    ((ofHistory changes).get? name).isSome = true ↔ ∃ t, Standing changes t ∧ t.name = name := by
  simp only [Option.isSome_iff_exists, get?_ofHistory]

theorem resolve_parted (changes : List (Change ρ)) {names : List String}
    (notAll : allTasks ∉ names) :
    Parted changes names ((ofHistory changes).resolve names) := by
  rw [resolve_eq _ notAll, Selection.ofNames]
  refine ⟨?_, fun name => ?_, fun name => ?_, ⟨?_, List.filter_sublist⟩, fun t member => ?_⟩
  · rw [map_name_filterMap_get?]
    have split :=
      List.filter_append_perm (fun n => ((ofHistory changes).get? n).isSome) names.eraseDups
    simp only [Option.not_isSome] at split
    exact split.nodup_iff.mpr (eraseDups_nodup names)
  · rw [map_name_filterMap_get?, List.mem_filter, List.mem_eraseDups, isSome_get?_iff]
  · rw [List.mem_filter, List.mem_eraseDups, ← isSome_get?_iff, Option.not_isSome_iff_eq_none,
      Option.isNone_iff_eq_none]
  · rw [map_name_filterMap_get?]
    exact List.filter_sublist
  · obtain ⟨name, _, found⟩ := List.mem_filterMap.mp member
    exact (get?_ofHistory.mp found).1

theorem resolve_inFull (changes : List (Change ρ)) {names : List String} (all : allTasks ∈ names) :
    InFull changes ((ofHistory changes).resolve names) := by
  have ordered := ofHistory_ordered changes
  rw [resolve, if_pos all]
  refine ⟨fun t => ?_, ?_, rfl⟩
  · rw [mem_tasks_iff ordered, get?_ofHistory, and_iff_left rfl]
  · exact names_ascending ordered

theorem resolve_filter (r : Registry ρ) (allowed names : List String) :
    ((r.filter allowed).resolve names).selected =
      (r.resolve names).selected.filter fun t => allowed.contains t.name := by
  by_cases all : allTasks ∈ names
  · rw [resolve, resolve, if_pos all, if_pos all]
    rfl
  · rw [resolve_eq _ all, resolve_eq _ all, Selection.ofNames, Selection.ofNames,
      List.filter_filterMap]
    refine List.filterMap_congr fun name _ => ?_
    rw [get?_filter]
    cases found : r.get? name with
    | none => simp
    | some t => simp [Option.filter, name_of_get? found]

/-- Requested names that are not all names are parted into those of standing tasks and unknown ones;
all tasks are those that stand, in the order of their names. What is selected from a registry that
was cut down to some names is what is selected from all of it, cut down to these names. -/
theorem request_parted (changes : List (Change ρ)) (names : List String) :
    (allTasks ∉ names → Parted changes names ((ofHistory changes).resolve names)) ∧
    (allTasks ∈ names → InFull changes ((ofHistory changes).resolve names)) ∧
    ∀ allowed, (((ofHistory changes).filter allowed).resolve names).selected =
      ((ofHistory changes).resolve names).selected.filter fun t => allowed.contains t.name :=
  ⟨resolve_parted changes, resolve_inFull changes, fun allowed => resolve_filter _ allowed names⟩

theorem replacedTask_selected :
    let changes :=
      [.register ⟨"version", false, 1⟩, .register ⟨"metrics", true, 2⟩,
        .register ⟨"version", true, 3⟩,
      .filter ["version", "nodes"], Change.register ⟨"nodes", false, 4⟩]
    let names := ["nodes", "nope", "version", "metrics", "nodes", "nope"]
    let s := (ofHistory changes).resolve names
    allTasks ∉ names ∧ s.selected = [⟨"nodes", false, 4⟩, ⟨"version", true, 3⟩] ∧
      s.unknown = ["nope", "metrics"] ∧
      Standing changes ⟨"version", true, 3⟩ ∧ ¬ ∃ t, Standing changes t ∧ t.name = "metrics" := by
  intro changes names s
  have notAll : allTasks ∉ names := by decide
  have selected : s.selected = [⟨"nodes", false, 4⟩, ⟨"version", true, 3⟩] := by rfl
  have unknown : s.unknown = ["nope", "metrics"] := by rfl
  have parted := (request_parted changes names).1 notAll
  refine ⟨notAll, selected, unknown, parted.standing _ ?_, ((parted.unknown_iff "metrics").mp ?_).2⟩
  · exact selected ▸ List.mem_cons_of_mem _ List.mem_cons_self
  · exact unknown ▸ List.mem_cons_of_mem _ List.mem_cons_self

end ClusterSurvey.Registry
