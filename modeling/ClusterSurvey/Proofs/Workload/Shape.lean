import ClusterSurvey.Proofs.Workload.Images
import Mathlib.Data.List.Chain
import Mathlib.Data.List.Forall2
import Mathlib.Data.List.OfFn
import Mathlib.Logic.Equiv.Basic
import Mathlib.Tactic.Choose

/-!
Shapes of containers and of pods. Where containers have names of their own, the place of a state
among the states is a hint and no more: it finds the container that a search for the name finds, so
states in another order have their shapes in that order. And shapes stand for the pods they came
from: a shape counts how often it was repeated in a row, and the shapes, each written as often as it
counts, are those of the pods that have one. A repeated shape is not written again, so neighbours
differ; its images were told when it came first, so what the calls tell are the images of the shapes
in their order.
-/
namespace ClusterSurvey.Workload

/-! Shapes of all states, or of none. -/

section MapM

variable {α β : Type} {f : α → Option β}

theorem mapM_eq_some_iff {l : List α} {out : List β} :
    l.mapM f = some out ↔ List.Forall₂ (fun a b => f a = some b) l out := by
  induction l generalizing out with
  | nil => simp [eq_comm]
  | cons a l ih =>
    rw [List.mapM_cons, List.forall₂_cons_left_iff]
    simp only [bind, pure, Option.bind_eq_some_iff, Option.some.injEq, ih]
    grind

theorem mapM_isSome_iff {l : List α} : (l.mapM f).isSome = true ↔ ∀ a ∈ l, (f a).isSome = true := by
  induction l with
  | nil => simp
  | cons a l ih =>
    rw [List.mapM_cons, List.forall_mem_cons, ← ih]
    cases f a with
    | none => simp
    | some b => cases l.mapM f <;> simp

theorem mapM_ofFn_of_some {n : Nat} {a : Fin n → α} {b : Fin n → β}
    (each : ∀ i, f (a i) = some (b i)) :
    (List.ofFn a).mapM f = some (List.ofFn b) := by
  rw [mapM_eq_some_iff, List.forall₂_iff_get]
  exact ⟨by simp, fun i _ _ => by simp [each]⟩

theorem mapM_ofFn_of_none {n : Nat} {a : Fin n → α} {i : Fin n} (none : f (a i) = none) :
    (List.ofFn a).mapM f = .none := by
  rw [← Option.not_isSome_iff_eq_none, mapM_isSome_iff]
  intro all
  have here := all (a i) (List.mem_ofFn.mpr ⟨i, rfl⟩)
  rw [none] at here
  cases here

end MapM

/-! The container of a name. -/

/-- No two containers have one name. There may be some without a name. -/
def NamedApart (spec : List Json) : Prop := (spec.filterMap (Json.stringAt? ["name"])).Nodup

instance (spec : List Json) : Decidable (NamedApart spec) :=
  inferInstanceAs (Decidable (List.Nodup _))

theorem isNamed_iff {name : String} {container : Json} :
    isNamed name container = true ↔ container.stringAt? ["name"] = some name := by
  simp [isNamed]

theorem NamedApart.find?_eq {spec : List Json} (apart : NamedApart spec) {name : String}
    {container : Json} (member : container ∈ spec) (named : isNamed name container = true) :
    spec.find? (isNamed name) = some container := by
  induction spec with
  | nil => cases member
  | cons first rest ih =>
    by_cases here : isNamed name first = true
    · rw [List.find?_cons_of_pos here]
      rcases List.mem_cons.mp member with same | later
      · rw [same]
      · have fresh : name ∉ rest.filterMap (Json.stringAt? ["name"]) := by
          rw [NamedApart, List.filterMap_cons_some (isNamed_iff.mp here)] at apart
          exact (List.nodup_cons.mp apart).1
        exact absurd (List.mem_filterMap.mpr ⟨container, later, isNamed_iff.mp named⟩) fresh
    · rw [List.find?_cons_of_neg here]
      have later : container ∈ rest := by
        rcases List.mem_cons.mp member with same | later
        · exact absurd (same ▸ named) here
        · exact later
      exact ih (apart.sublist ((List.sublist_cons_self first rest).filterMap _)) later

theorem matching?_eq_find? {spec : List Json} (apart : NamedApart spec)
    (name : String) (hint : Nat) :
    matching? name spec hint = spec.find? (isNamed name) := by
  unfold matching?
  cases here : (spec[hint]?).filter (isNamed name) with
  | none => rfl
  | some container =>
    obtain ⟨there, named⟩ := Option.filter_eq_some_iff.mp here
    rw [apart.find?_eq (List.mem_of_getElem? there) named]
    rfl

theorem containerShape?_hint {spec : List Json} (apart : NamedApart spec) (status : Json)
    (hint hint' : Nat) :
    containerShape? spec status hint = containerShape? spec status hint' := by
  rw [containerShape?, containerShape?, matching?_eq_find? apart, matching?_eq_find? apart]

theorem containerShapes?_eq_mapM {spec : List Json} (apart : NamedApart spec)
    (statuses : List Json) :
    containerShapes? spec statuses = statuses.mapM fun status => containerShape? spec status 0 := by
  have each : (fun p : Json × Nat => containerShape? spec p.1 p.2) =
      (fun status => containerShape? spec status 0) ∘ Prod.fst :=
    funext fun p => containerShape?_hint apart p.1 p.2 0
  calc containerShapes? spec statuses
      = statuses.zipIdx.mapM ((fun status => containerShape? spec status 0) ∘ Prod.fst) := by
        rw [← each]; rfl
    _ = (statuses.zipIdx.map Prod.fst).mapM fun status => containerShape? spec status 0 :=
      List.mapM_map.symm
    _ = statuses.mapM fun status => containerShape? spec status 0 := by rw [List.zipIdx_map_fst]

/-- If no two containers have one name, the hint makes no difference: the container that has the
name is found, if there is one. So states in another order have their shapes in that order, and if
one of them has no shape there are none in either order. -/
theorem shapes_follow_states {spec : List Json} (apart : NamedApart spec) :
    (∀ name hint, matching? name spec hint = spec.find? (isNamed name)) ∧
    ∀ (n : Nat) (statuses : Fin n → Json) (order : Equiv.Perm (Fin n)),
      (∃ shapes : Fin n → ContainerShape, containerShapes? spec (List.ofFn statuses) =
        some (List.ofFn shapes) ∧
        containerShapes? spec (List.ofFn (statuses ∘ order)) = some (List.ofFn (shapes ∘ order))) ∨
      containerShapes? spec (List.ofFn statuses) = none ∧
        containerShapes? spec (List.ofFn (statuses ∘ order)) = none := by
  refine ⟨matching?_eq_find? apart, fun n statuses order => ?_⟩
  simp only [containerShapes?_eq_mapM apart]
  by_cases all : ∀ i, ∃ shape, containerShape? spec (statuses i) 0 = some shape
  · choose shapes each using all
    exact Or.inl ⟨shapes, mapM_ofFn_of_some each, mapM_ofFn_of_some fun i => each (order i)⟩
  · right
    obtain ⟨i, without⟩ := not_forall.mp all
    have none : containerShape? spec (statuses i) 0 = none :=
      Option.eq_none_iff_forall_ne_some.mpr fun shape here => without ⟨shape, here⟩
    refine ⟨mapM_ofFn_of_none none, mapM_ofFn_of_none (i := order.symm i) ?_⟩
    rwa [Function.comp_apply, Equiv.apply_symm_apply]

theorem twoStates_swapped :
    let spec :=
      [.obj [], Json.obj [("name", .str "app"), ("image", .str "quay.io/shop/app@sha256:1a")],
      .obj [("name", .str "proxy"), ("image", .str "quay.io/shop/proxy@sha256:2b")]]
    NamedApart spec ∧
      (matching? "proxy" spec 0).bind (Json.stringAt? ["image"]) =
        some "quay.io/shop/proxy@sha256:2b" ∧
      containerShapes? spec [.obj [("name", .str "proxy")], .obj [("name", .str "app")]] =
        some [⟨"sha256:2b", "", ""⟩, ⟨"sha256:1a", "", ""⟩] := by
  intro spec
  have apart : NamedApart spec := by decide +kernel
  have straight : containerShapes? spec [.obj [("name", .str "app")],
      .obj [("name", .str "proxy")]] =
      some [⟨"sha256:1a", "", ""⟩, ⟨"sha256:2b", "", ""⟩] := by decide +kernel
  have found : (matching? "proxy" spec 0).bind (Json.stringAt? ["image"]) =
      some "quay.io/shop/proxy@sha256:2b" := by
    rw [(shapes_follow_states apart).1 "proxy" 0]
    decide +kernel
  refine ⟨apart, found, ?_⟩
  let states : Fin 2 → Json := fun i => .obj [("name", .str (if i = 0 then "app" else "proxy"))]
  have order : List.ofFn states =
      [.obj [("name", .str "app")], .obj [("name", .str "proxy")]] := by simp [states]
  have swap : List.ofFn (states ∘ Equiv.swap 0 1) =
      [.obj [("name", .str "proxy")], .obj [("name", .str "app")]] := by
    simp [states]
  have either := (shapes_follow_states apart).2 2 states (Equiv.swap 0 1)
  rw [order, straight, swap] at either
  rcases either with ⟨shapes, first, second⟩ | ⟨none, _⟩
  · have shapesOf : shapes 0 = ⟨"sha256:1a", "", ""⟩ ∧ shapes 1 = ⟨"sha256:2b", "", ""⟩ := by
      simpa [eq_comm] using first
    simpa [shapesOf] using second
  · cases none

/-! Pods that have a shape. -/

/-- The shape of the container that a state at a place belongs to, with the image that is known of
it. -/
def ShapeAt (spec : List Json) (state : Json × Nat) (shape : ContainerShape) : Prop :=
  ∃ container, matching? (state.1.stringAt ["name"]) spec state.2 = some container ∧
    containerImage? state.1 container = some shape.image ∧
    shape.command = hashedFirst (container.itemsAt ["command"]) ∧
    shape.argument = hashedFirst (container.itemsAt ["args"])

/-- Whether each state belongs to a container and has an image. -/
def resolved (spec statuses : List Json) : Bool :=
  statuses.zipIdx.all fun (status, place) =>
    ((matching? (status.stringAt ["name"]) spec place).bind (containerImage? status)).isSome

theorem containerShape?_eq_some_iff {spec : List Json} {status : Json} {place : Nat}
    {shape : ContainerShape} :
    containerShape? spec status place = some shape ↔ ShapeAt spec (status, place) shape := by
  obtain ⟨image, command, argument⟩ := shape
  simp only [containerShape?, ShapeAt, bind, pure, Option.bind_eq_some_iff, Option.some.injEq,
    ContainerShape.mk.injEq]
  constructor
  · rintro ⟨container, found, image', here, rfl, rfl, rfl⟩
    exact ⟨container, found, here, rfl, rfl⟩
  · rintro ⟨container, found, here, rfl, rfl⟩
    exact ⟨container, found, image, here, rfl, rfl, rfl⟩

theorem containerShape?_isSome (spec : List Json) (status : Json) (place : Nat) :
    (containerShape? spec status place).isSome =
      ((matching? (status.stringAt ["name"]) spec place).bind (containerImage? status)).isSome := by
  unfold containerShape?
  cases matching? (status.stringAt ["name"]) spec place with
  | none => rfl
  | some container =>
    simp only [bind, Option.bind_some]
    cases containerImage? status container <;> rfl

theorem containerShapes?_eq_some_iff {spec statuses : List Json} {shapes : List ContainerShape} :
    containerShapes? spec statuses = some shapes ↔
      List.Forall₂ (ShapeAt spec) statuses.zipIdx shapes := by
  simp only [containerShapes?, mapM_eq_some_iff, containerShape?_eq_some_iff]

theorem containerShapes?_isSome (spec statuses : List Json) :
    (containerShapes? spec statuses).isSome = resolved spec statuses := by
  rw [Bool.eq_iff_iff, containerShapes?, mapM_isSome_iff, resolved, List.all_eq_true]
  simp only [containerShape?_isSome]

/-- Whether the containers of a list in a pod have a state each, and all of them have a shape. -/
def complete (pod : Json) (containers states : String) : Bool :=
  (pod.itemsAt ["spec", containers]).length = (pod.itemsAt ["status", states]).length &&
    resolved (pod.itemsAt ["spec", containers]) (pod.itemsAt ["status", states])

def isShaped (pod : Json) : Bool :=
  (pod.stringAt ["status", "phase"] = "Running" || pod.stringAt ["status", "phase"] = "Pending") &&
    complete pod "initContainers" "initContainerStatuses"
      && complete pod "containers" "containerStatuses"

structure HasShapes (pod : Json) (shapes : List ContainerShape × List ContainerShape) : Prop where
  initContainers : List.Forall₂ (ShapeAt (pod.itemsAt ["spec", "initContainers"]))
    (pod.itemsAt ["status", "initContainerStatuses"]).zipIdx shapes.1
  containers : List.Forall₂ (ShapeAt (pod.itemsAt ["spec", "containers"]))
    (pod.itemsAt ["status", "containerStatuses"]).zipIdx shapes.2

theorem isShaped_iff {pod : Json} : isShaped pod = true ↔
    (pod.stringAt ["status", "phase"] = "Running" ∨ pod.stringAt ["status", "phase"] = "Pending") ∧
      ((pod.itemsAt ["spec", "initContainers"]).length =
        (pod.itemsAt ["status", "initContainerStatuses"]).length ∧
        (pod.itemsAt ["spec", "containers"]).length =
        (pod.itemsAt ["status", "containerStatuses"]).length) ∧
        (containerShapes? (pod.itemsAt ["spec", "initContainers"])
          (pod.itemsAt ["status", "initContainerStatuses"])).isSome = true ∧
          (containerShapes? (pod.itemsAt ["spec", "containers"])
            (pod.itemsAt ["status", "containerStatuses"])).isSome = true := by
  simp only [isShaped, complete, containerShapes?_isSome, Bool.and_eq_true, Bool.or_eq_true,
    decide_eq_true_eq]
  tauto

theorem classify_of_isShaped {pod : Json} (shaped : isShaped pod = true) :
    ∃ shape, classify pod = .shaped shape ∧
      HasShapes pod (shape.initContainers, shape.containers) := by
  obtain ⟨phase, ⟨initLengths, lengths⟩, initSome, some⟩ := isShaped_iff.mp shaped
  obtain ⟨initContainers, inits⟩ := Option.isSome_iff_exists.mp initSome
  obtain ⟨containers, others⟩ := Option.isSome_iff_exists.mp some
  refine ⟨⟨0, pod.stringAt? ["spec", "restartPolicy"] = .some "Always", initContainers, containers⟩,
    ?_,
    containerShapes?_eq_some_iff.mp inits, containerShapes?_eq_some_iff.mp others⟩
  rcases phase with running | pending
  · simp [classify, running, initLengths, lengths, inits, others]
  · simp [classify, pending, initLengths, lengths, inits, others]

theorem isShaped_of_classify {pod : Json} {shape : PodShape}
    (shaped : classify pod = .shaped shape) :
    isShaped pod = true := by
  unfold classify at shaped
  dsimp only at shaped
  split at shaped
  · cases shaped
  · split at shaped
    · cases shaped
    · rename_i phase
      split at shaped
      · cases shaped
      · rename_i lengths
        split at shaped
        · rename_i inits others
          refine isShaped_iff.mpr ⟨?_, not_or.mp lengths |>.imp not_not.mp not_not.mp, ?_, ?_⟩
          · tauto
          · rw [inits, Option.isSome_some]
          · rw [others, Option.isSome_some]
        · cases shaped

/-! One shape for each run of pods. -/

def PodShape.Differs (a b : PodShape) : Prop :=
  a.initContainers ≠ b.initContainers ∨ a.containers ≠ b.containers

theorem PodShape.Differs.symm {a b : PodShape} (differs : a.Differs b) : b.Differs a :=
  differs.imp Ne.symm Ne.symm

theorem PodShape.differs_of_not_sameContainers {a b : PodShape}
    (other : ¬ a.sameContainers b = true) :
    a.Differs b := by
  simp only [sameContainers, Bool.and_eq_true, decide_eq_true_eq] at other
  exact not_and_or.mp other

namespace NamespacePods

/-- The containers of each pod that a shape stands for. -/
def expanded (p : NamespacePods) : List (List ContainerShape × List ContainerShape) :=
  p.shapes.reverse.flatMap fun s =>
    List.replicate (1 + s.duplicates) (s.initContainers, s.containers)

theorem addShape_expanded (p : NamespacePods) {shape : PodShape} (single : shape.duplicates = 0) :
    (p.addShape shape).1.expanded = p.expanded ++ [(shape.initContainers, shape.containers)] := by
  have fresh : List.replicate (1 + shape.duplicates) (shape.initContainers, shape.containers) =
      [(shape.initContainers, shape.containers)] := by rw [single]; rfl
  unfold addShape expanded
  cases shapes : p.shapes with
  | nil => simp [fresh]
  | cons last rest =>
    by_cases same : last.sameContainers shape = true
    · simp only [if_pos same, List.reverse_cons, List.flatMap_append, List.flatMap_singleton,
        List.append_assoc]
      simp only [PodShape.sameContainers, Bool.and_eq_true, decide_eq_true_eq] at same
      rw [← Nat.add_assoc, List.replicate_succ', same.1, same.2]
    · simp only [if_neg same, List.reverse_cons, List.flatMap_append, List.flatMap_singleton,
        List.append_assoc, fresh]

theorem addShape_differs {p : NamespacePods} (apart : p.shapes.IsChain PodShape.Differs)
    (shape : PodShape) :
    (p.addShape shape).1.shapes.IsChain PodShape.Differs := by
  unfold addShape
  cases shapes : p.shapes with
  | nil => exact List.isChain_singleton shape
  | cons last rest =>
    rw [shapes] at apart
    by_cases same : last.sameContainers shape = true
    · obtain ⟨next, later⟩ := List.isChain_cons.mp apart
      simp only [if_pos same]
      exact List.isChain_cons.mpr ⟨next, later⟩
    · simp only [if_neg same]
      exact List.isChain_cons_cons.mpr ⟨(PodShape.differs_of_not_sameContainers same).symm, apart⟩

theorem add_expanded (p : NamespacePods) (pod : Json) :
    ∃ more, (p.add pod).1.expanded = p.expanded ++ more ∧
      List.Forall₂ HasShapes ([pod].filter isShaped) more := by
  cases shaped : isShaped pod with
  | true =>
    obtain ⟨shape, class_, has⟩ := classify_of_isShaped shaped
    refine ⟨[(shape.initContainers, shape.containers)], ?_, ?_⟩
    · simp only [add, class_]
      exact addShape_expanded { p with count := p.count + 1 } (classify_single class_)
    · rw [List.filter_cons_of_pos shaped]
      exact .cons has .nil
  | false =>
    refine ⟨[], ?_, ?_⟩
    · rw [List.append_nil, add]
      cases class_ : classify pod with
      | shaped shape => rw [isShaped_of_classify class_] at shaped; cases shaped
      | _ => rfl
    · rw [List.filter_cons_of_neg (by simp [shaped])]
      exact .nil

theorem add_differs {p : NamespacePods} (apart : p.shapes.IsChain PodShape.Differs) (pod : Json) :
    (p.add pod).1.shapes.IsChain PodShape.Differs := by
  unfold add
  cases classify pod with
  | shaped shape => exact addShape_differs (p := { p with count := p.count + 1 }) apart shape
  | _ => exact apart

def addAll (pods : List Json) : NamespacePods × List (List String) :=
  pods.foldl (fun (p, told) pod => ((p.add pod).1, told ++ [(p.add pod).2])) (.empty, [])

theorem addAll_concat (pods : List Json) (pod : Json) :
    addAll (pods ++ [pod]) =
      (((addAll pods).1.add pod).1, (addAll pods).2 ++ [((addAll pods).1.add pod).2]) := by
  simp only [addAll, List.foldl_append, List.foldl_cons, List.foldl_nil]

theorem addAll_expanded (pods : List Json) :
    List.Forall₂ HasShapes (pods.filter isShaped) (addAll pods).1.expanded := by
  induction pods using List.reverseRecOn with
  | nil => exact .nil
  | append_singleton pods pod ih =>
    obtain ⟨more, whole, last⟩ := add_expanded (addAll pods).1 pod
    rw [addAll_concat, whole, List.filter_append]
    exact List.rel_append ih last

theorem addAll_differs (pods : List Json) : (addAll pods).1.shapes.IsChain PodShape.Differs := by
  induction pods using List.reverseRecOn with
  | nil => exact .nil
  | append_singleton pods pod ih =>
    rw [addAll_concat]
    exact add_differs ih pod

theorem addAll_images (pods : List Json) : (addAll pods).2.flatten = (addAll pods).1.images := by
  induction pods using List.reverseRecOn with
  | nil => rfl
  | append_singleton pods pod ih =>
    rw [addAll_concat, List.flatten_concat, ih]
    exact (add_images (addAll pods).1 pod).1.symm

/-- The shapes, each as often as it counts, are those of the pods that run or wait to run, have a
state for each of their containers and a known image for each state, in their order. Neighbours
among the shapes have other containers. And the images that the calls told are those of the shapes
in their order. -/
theorem pods_expanded_from_shapes (pods : List Json) :
    let p := (addAll pods).1
    List.Forall₂ HasShapes (pods.filter isShaped) p.expanded ∧
      p.shapes.reverse.IsChain PodShape.Differs ∧
      (addAll pods).2.flatten = p.shapes.reverse.flatMap fun shape =>
        (shape.initContainers ++ shape.containers).map fun container => container.image :=
  ⟨addAll_expanded pods, List.isChain_reverse.mpr
    ((addAll_differs pods).imp fun _ _ => PodShape.Differs.symm),
    addAll_images pods⟩

/-- Only the last shape is compared, so a pod like an earlier one has a shape of its own. -/
example :
    let pod :=
      fun image => Json.obj [("spec", .obj [("containers", .arr [.obj [("name", .str "main")]])]),
      ("status", .obj [("phase", .str "Running"),
        ("containerStatuses", .arr [.obj [("name", .str "main"), ("imageID", .str image)]])])]
    let all := addAll [pod "quay.io/a@sha256:1", pod "quay.io/a@sha256:1", pod "quay.io/b@sha256:2",
      pod "quay.io/a@sha256:1"]
    all.1.shapes.map PodShape.duplicates = [0, 0, 1] ∧
      all.2 = [["sha256:1"], [], ["sha256:2"], ["sha256:1"]] := by
  decide +kernel

end NamespacePods

end ClusterSurvey.Workload
