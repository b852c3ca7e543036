import ClusterSurvey.Lru
import ClusterSurvey.Survey.Output
import ClusterSurvey.Workload.Shape

/-!
The fingerprint of what a cluster runs: the shapes of the pods of each namespace, whose name is
hashed, and the layers of the images in them. At most so many pods are looked at.
-/
namespace ClusterSurvey.Workload

structure Image where
  layers : List String
  command : String
  argument : String
  deriving DecidableEq, Repr, Inhabited

namespace Image

def unknown : Image := ⟨[], "", ""⟩

def isUnknown (i : Image) : Bool := i.layers.isEmpty

def ofResource (image : Json) : Image :=
  let config := fun key => image.itemsAt ["dockerImageMetadata", "ContainerConfig", key]
  ⟨(image.itemsAt ["dockerImageLayers"]).filterMap fun layer => layer.stringAt? ["name"],
    hashedFirst (config "Entrypoint"), hashedFirst (config "Cmd")⟩

def toJson (i : Image) : Json :=
  .obj (("layerIDs", .arr (i.layers.map .str)) :: (Json.textMember "firstCommand" i.command
    ++ Json.textMember "firstArg" i.argument))

end Image

abbrev ImageCache : Type := Lru String Image

def maxPods : Nat := 3000

/-- The pods that were looked at: those of the namespaces that are done, by the hash of the name,
those of the present namespace, and the images in the order of their appearance. -/
structure Tally where
  done : List (String × NamespacePods)
  /-- The number of pods in namespaces that are done. -/
  counted : Nat
  present : Option (String × NamespacePods)
  /-- The images, the last one first. -/
  images : List String
  limitReached : Bool

namespace Tally

def start : Tally := ⟨[], 0, none, [], false⟩

def close (t : Tally) : Tally :=
  match t.present with
  | some (ns, pods) =>
    { t with done := (hash ns, pods) :: t.done, counted := t.counted + pods.count, present := none }
  | none => t

def addImages (images : List String) (ids : List String) : List String :=
  ids.foldl (fun seen id => if id ∈ seen then seen else id :: seen) images

def add (t : Tally) (pod : Json) : Tally :=
  if t.limitReached then t
  else
    let ns := pod.namespaceOf
    let t := match t.present with
      | some (name, _) => if name = ns then t else { t.close with present := some (ns, .empty) }
      | none => { t with present := some (ns, .empty) }
    match t.present with
    | none => t
    | some (name, pods) =>
      if maxPods ≤ t.counted + pods.count then { t with limitReached := true }
      else
        let (pods, ids) := pods.add pod
        { t with present := some (name, pods), images := addImages t.images ids }

end Tally

/-- Looks at the pods of further pages until the limit is reached, at most `fuel` pages. -/
def tallyPages {σ : Type} (c : Client σ) : (fuel : Nat) → Pager → Tally → Gather σ Tally
  | 0, _, t => return t
  | fuel + 1, p, t => do
    match ← (p.nextPage c : StateM σ _) with
    | (.error e, _) => throw (.cluster e)
    | (.ok none, _) => return t
    | (.ok (some pods), p) =>
      let t := pods.foldl Tally.add t
      if t.limitReached then return t
      tallyPages c fuel p t

/-- What is known of an image, from the cache if it is there. An image that cannot be found is
unknown, and is not put into the cache. -/
def lookUp {σ : Type} (c : Client σ) (cache : ImageCache) (id : String) :
    StateM σ (Image × ImageCache) := do
  match cache.get? id with
  | (some image, cache) => return (image, cache)
  | (none, cache) =>
    match ← c.get .images none id with
    | .ok resource =>
      let image := Image.ofResource resource
      return (image, cache.put id image)
    | .error _ => return (.unknown, cache)

def lookUpAll {σ : Type} (c : Client σ) :
    ImageCache → List String → StateM σ (List (String × Image) × ImageCache)
  | cache, [] => return ([], cache)
  | cache, id :: rest => do
    let (image, cache) ← lookUp c cache id
    let (images, cache) ← lookUpAll c cache rest
    return ((id, image) :: images, cache)

/-- The members of a fingerprint in their order. Images of which nothing is known are counted and
left out. -/
def fingerprint (t : Tally) (images : List (String × Image)) : Json :=
  .obj [("pods", .int t.counted), ("imageCount", .int images.length),
    ("images", Json.object ((images.filter fun i => !i.2.isUnknown).map fun (id, i) =>
        (id, i.toJson))),
    ("namespaces", Json.object (t.done.reverse.map fun (name, pods) => (name, pods.toJson)))]

def output (t : Tally) (images : List (String × Image)) : Output :=
  ⟨[.of "config/workload_info" (.json (fingerprint t images))],
    if t.limitReached then
      [.warning s!"The {maxPods} limit for number of pods gathered was reached"]
    else []⟩

def podsPageSize : Nat := 500

/-- Takes the fingerprint. Images are not looked up once the run was cancelled. -/
def survey {σ : Type} (c : Client σ) (cancelled : Bool) (cache : ImageCache) :
    StateM σ (Output × ImageCache) := do
  match ← (tallyPages c c.pageBound ((Pager.of .pods).withLimit podsPageSize) .start).run with
  | .error e => return (⟨[], [e]⟩, cache)
  | .ok t =>
    let t := t.close
    let cache := cache.resizeFor t.counted
    if cancelled then return (output t [], cache)
    let (images, cache) ← lookUpAll c cache t.images.reverse
    return (output t images, cache)

end ClusterSurvey.Workload
