import ClusterSurvey.Log.Collect

/-!
The maximum of containers of a namespace. Containers are counted one by one, in the order of their
pods; what the counts come to is that the first containers are read, up to the maximum, and all
others are skipped.
-/
namespace ClusterSurvey.Log

namespace Selection

/-- The containers of a pod whose names match, those that initialise it last. -/
def named (s : Selection) (pod : Json) : List String :=
  ((pod.itemsAt ["spec", "containers"] ++ pod.itemsAt ["spec", "initContainers"]).filterMap
    fun c => c.stringAt? ["name"]).filter fun name => s.containerName.all fun p => p.isMatch name

/-- The containers that a selection chooses of some pods, each with the name of its pod. -/
def chosen (s : Selection) (pods : List Json) : List (String × String) :=
  (pods.filter fun pod => s.podName.all fun p => p.isMatch pod.name).flatMap fun pod =>
    (s.named pod).map (pod.name, ·)

theorem containers_eq (s : Selection) (pod : Json) : s.containers pod = s.named pod := by
  have each : (fun c : Json => (c.get? "name").bind Json.asString?) = Json.stringAt? ["name"] := by
    funext c
    rw [Json.stringAt?, Json.walk?]
    cases c.get? "name" <;> rfl
  rw [containers, each]
  rfl

def read (s : Selection) (all : List (String × String)) : List (String × String) :=
  if s.maxContainers = 0 then all else all.take s.maxContainers

/-- Those that are read when so many were read before. -/
def readAfter (s : Selection) (before : Nat) (all : List (String × String)) :
    List (String × String) :=
  if s.maxContainers = 0 then all else all.take (s.maxContainers - before)

def warnings (s : Selection) (ns : String) (all : List (String × String)) : List GatherError :=
  let skipped := all.length - (s.read all).length
  if skipped = 0 then []
  else [.warning s!"skipping {skipped} containers on namespace {ns} (max: {s.maxContainers})"]

theorem chosen_cons (s : Selection) (pod : Json) (pods : List Json) :
    s.chosen (pod :: pods) =
      (if allows s.podName pod.name then (s.containers pod).map (pod.name, ·) else []) ++
        s.chosen pods := by
  rw [containers_eq, chosen, List.filter_cons]
  change (if allows s.podName pod.name then _ else _ : List Json).flatMap _ = _
  split <;> rfl

theorem readAfter_zero (s : Selection) (all : List (String × String)) :
    s.readAfter 0 all = s.read all := rfl

theorem readAfter_full {s : Selection} {before : Nat}
    (full : 0 < s.maxContainers ∧ s.maxContainers ≤ before) (all : List (String × String)) :
    s.readAfter before all = [] := by
  rw [readAfter, if_neg (Nat.ne_of_gt full.1), Nat.sub_eq_zero_of_le full.2, List.take_zero]

theorem readAfter_cons {s : Selection} {before : Nat}
    (room : ¬ (0 < s.maxContainers ∧ s.maxContainers ≤ before)) (first : String × String)
    (rest : List (String × String)) :
    s.readAfter before (first :: rest) = first :: s.readAfter (before + 1) rest := by
  unfold readAfter
  split
  · rfl
  · have one : s.maxContainers - before = s.maxContainers - (before + 1) + 1 := by omega
    rw [one, List.take_succ_cons]

end Selection

variable {σ : Type} (c : Client σ) (cancelled : Bool) (s : Selection) (filter : Filter)
  (fileName : String → String → String → String) (ns : String)

theorem foldlM_collectPod (pods : List Json) (t : ContainerTally) :
    pods.foldlM (collectPod c cancelled s filter fileName ns) t =
      (s.chosen pods).foldlM
      (fun t p => collectContainer c cancelled s filter fileName ns p.1 t p.2) t := by
  induction pods generalizing t with
  | nil => rfl
  | cons pod pods ih =>
    rw [List.foldlM_cons, Selection.chosen_cons, List.foldlM_append, collectPod]
    split
    · rw [List.foldlM_map]
      exact bind_congr ih
    · rw [List.foldlM_nil, pure_bind, pure_bind, ih]

theorem collectContainer_full {t : ContainerTally}
    (full : 0 < s.maxContainers ∧ s.maxContainers ≤ t.read) (pod container : String) :
    collectContainer c cancelled s filter fileName ns pod t container =
      pure { t with skipped := t.skipped + 1 } := by
  rw [collectContainer, if_pos full]

theorem collectContainer_room {t : ContainerTally}
    (room : ¬ (0 < s.maxContainers ∧ s.maxContainers ≤ t.read)) (pod container : String) :
    collectContainer c cancelled s filter fileName ns pod t container =
      collectOne c cancelled filter fileName ns pod container >>= fun records =>
        pure { t with read := t.read + 1, records := t.records ++ records } := by
  rw [collectContainer, if_neg room]

theorem foldlM_collectContainer (all : List (String × String)) (t : ContainerTally) :
    all.foldlM (fun t p => collectContainer c cancelled s filter fileName ns p.1 t p.2) t =
      (s.readAfter t.read all).mapM
      (fun p => collectOne c cancelled filter fileName ns p.1 p.2) >>= fun records =>
        pure ⟨t.read + (s.readAfter t.read all).length,
          t.skipped + (all.length - (s.readAfter t.read all).length),
          t.records ++ records.flatten⟩ := by
  induction all generalizing t with
  | nil =>
    have none : s.readAfter t.read [] = [] := by
      unfold Selection.readAfter
      split <;> simp
    rw [none, List.mapM_nil, pure_bind, List.foldlM_nil, List.flatten_nil, List.append_nil]
    rfl
  | cons first rest ih =>
    rw [List.foldlM_cons]
    by_cases full : 0 < s.maxContainers ∧ s.maxContainers ≤ t.read
    · rw [collectContainer_full _ _ _ _ _ _ full, pure_bind, ih, Selection.readAfter_full full,
        Selection.readAfter_full full]
      simp only [List.mapM_nil, pure_bind, List.length_nil, List.length_cons]
      congr 2
      omega
    · rw [collectContainer_room _ _ _ _ _ _ full, Selection.readAfter_cons full, List.mapM_cons]
      simp only [bind_assoc, pure_bind]
      refine bind_congr fun records => ?_
      rw [ih]
      refine bind_congr fun others => ?_
      simp only [List.length_cons, List.flatten_cons, List.append_assoc]
      congr 2 <;> omega

theorem collectNamespace_eq :
    collectNamespace c cancelled s filter fileName ns =
      Gather.call ((((Pager.of .pods).within ns).withOptions s.options).withLimit podsPageSize
        |>.collect c) >>= fun pods =>
        (s.read (s.chosen pods.items)).mapM
          (fun p => collectOne c cancelled filter fileName ns p.1 p.2) >>=
          fun records => pure (records.flatten, s.warnings ns (s.chosen pods.items)) := by
  unfold collectNamespace
  refine bind_congr fun pods => ?_
  rw [foldlM_collectPod, foldlM_collectContainer, bind_assoc]
  refine bind_congr fun records => ?_
  rw [pure_bind]
  simp [ContainerTally.start, ContainerTally.warnings, Selection.warnings, Selection.readAfter_zero]

end ClusterSurvey.Log
