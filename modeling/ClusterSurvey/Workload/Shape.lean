import ClusterSurvey.Json.Path
import ClusterSurvey.Workload.Argument

/-!
The shapes of pods: the images, commands and arguments of their containers. Of the pods of a
namespace each shape is kept once for each run of equal ones.
-/
namespace ClusterSurvey.Workload

def imageId? (reference : List Char) : Option String :=
  let back := reference.reverse
  let digest := (back.takeWhile (· ≠ '@')).reverse
  let name := reference.length - digest.length - 1
  if reference.contains '@' ∧ 0 < name ∧ digest.contains ':' then
    some (String.ofList digest) else none

def pulledMark : List Char := "docker-pullable://".toList

def dropPulledMarks : (fuel : Nat) → List Char → List Char
  | 0, cs => cs
  | fuel + 1, cs =>
      if pulledMark.isPrefixOf cs then dropPulledMarks fuel (cs.drop pulledMark.length) else cs

structure ContainerShape where
  image : String
  command : String
  argument : String
  deriving DecidableEq, Repr

def isNamed (name : String) (container : Json) : Bool := container.stringAt? ["name"] == some name

/-- The container with a name: the one at the place of the hint if it has that name, else the first
one. -/
def matching? (name : String) (spec : List Json) (hint : Nat) : Option Json :=
  ((spec[hint]?).filter (isNamed name)).or (spec.find? (isNamed name))

def containerImage? (status container : Json) : Option String :=
  let running := (status.stringAt ["imageID"]).toList
  (imageId? (dropPulledMarks running.length running)).or
    (imageId? (container.stringAt ["image"]).toList)

def containerShape? (spec : List Json) (status : Json) (hint : Nat) : Option ContainerShape := do
  let container ← matching? (status.stringAt ["name"]) spec hint
  let image ← containerImage? status container
  return ⟨image, hashedFirst (container.itemsAt ["command"]),
    hashedFirst (container.itemsAt ["args"])⟩

/-- The shapes of the containers that states belong to; nothing if one of them has none. -/
def containerShapes? (spec statuses : List Json) : Option (List ContainerShape) :=
  statuses.zipIdx.mapM fun (status, i) => containerShape? spec status i

structure PodShape where
  duplicates : Nat
  restartAlways : Bool
  initContainers : List ContainerShape
  containers : List ContainerShape
  deriving DecidableEq, Repr

inductive PodClass where
  /-- It has ended. -/
  | terminal
  /-- It is in no known phase, or not all of its containers have a state. -/
  | ignored
  /-- A state belongs to no container, or has no image. -/
  | invalid
  | shaped (shape : PodShape)

def classify (pod : Json) : PodClass :=
  let phase := pod.stringAt ["status", "phase"]
  let initSpec := pod.itemsAt ["spec", "initContainers"]
  let initStatus := pod.itemsAt ["status", "initContainerStatuses"]
  let spec := pod.itemsAt ["spec", "containers"]
  let status := pod.itemsAt ["status", "containerStatuses"]
  if phase = "Succeeded" ∨ phase = "Failed" then .terminal
  else if phase ≠ "Running" ∧ phase ≠ "Pending" then .ignored
  else if initSpec.length ≠ initStatus.length ∨ spec.length ≠ status.length then .ignored
  else
    match containerShapes? initSpec initStatus, containerShapes? spec status with
    | some initContainers, some containers =>
      .shaped ⟨0, pod.stringAt? ["spec", "restartPolicy"] = some "Always",
        initContainers, containers⟩
    | _, _ => .invalid

def PodShape.sameContainers (a b : PodShape) : Bool :=
  a.initContainers = b.initContainers && a.containers = b.containers

def PodShape.images (s : PodShape) : List String := (s.initContainers ++ s.containers).map (·.image)

/-- The pods of a namespace: how many there are of each class, and the shapes, the last one
first. -/
structure NamespacePods where
  count : Nat
  terminal : Nat
  ignored : Nat
  invalid : Nat
  shapes : List PodShape
  deriving DecidableEq, Repr

namespace NamespacePods

def empty : NamespacePods := ⟨0, 0, 0, 0, []⟩

/-- Adds a shape. One that equals the last shape is a duplicate of it and brings no new images. -/
def addShape (p : NamespacePods) (shape : PodShape) : NamespacePods × List String :=
  match p.shapes with
  | last :: rest =>
    if last.sameContainers shape then
      ({ p with shapes := { last with duplicates := last.duplicates + 1 } :: rest }, [])
    else ({ p with shapes := shape :: p.shapes }, shape.images)
  | [] => ({ p with shapes := [shape] }, shape.images)

def add (p : NamespacePods) (pod : Json) : NamespacePods × List String :=
  let p := { p with count := p.count + 1 }
  match classify pod with
  | .terminal => ({ p with terminal := p.terminal + 1 }, [])
  | .ignored => ({ p with ignored := p.ignored + 1 }, [])
  | .invalid => ({ p with invalid := p.invalid + 1 }, [])
  | .shaped shape => p.addShape shape

end NamespacePods

def countMember (name : String) (n : Nat) : List (String × Json) :=
  if n = 0 then [] else [(name, .int n)]

def ContainerShape.toJson (s : ContainerShape) : Json :=
  .obj (("imageID", .str s.image) :: (Json.textMember "firstCommand" s.command
    ++ Json.textMember "firstArg" s.argument))

def PodShape.toJson (s : PodShape) : Json :=
  let initContainers :=
    if s.initContainers.isEmpty then []
      else [("initContainers", .arr (s.initContainers.map (·.toJson)))]
  .obj (countMember "duplicates" s.duplicates ++ [("restartAlways", .bool s.restartAlways)]
    ++ initContainers
    ++ [("containers", .arr (s.containers.map (·.toJson)))])

def NamespacePods.toJson (p : NamespacePods) : Json :=
  .obj (("count", .int p.count) :: (countMember "terminalCount" p.terminal
    ++ countMember "ignoredCount" p.ignored ++ countMember "invalidCount" p.invalid
    ++ [("shapes", .arr (p.shapes.reverse.map (·.toJson)))]))

end ClusterSurvey.Workload
