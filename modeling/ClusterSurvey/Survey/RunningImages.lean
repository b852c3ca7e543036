import ClusterSurvey.Pattern.Meaning
import ClusterSurvey.Survey.PodHealth

/-!
Images of the vendor that the cluster runs, counted by the month in which the pods were created.
Pods of the platform that are restarted over and over are recorded instead.
-/
namespace ClusterSurvey.Survey

def behind (part : List Char) : List Char → Option (List Char)
  | [] => if part.isEmpty then some [] else none
  | c :: cs =>
      if part.isPrefixOf (c :: cs) then some ((c :: cs).drop part.length) else behind part cs

def splitLast (sep : Char) (cs : List Char) : Option (List Char × List Char) :=
  let back := cs.reverse
  if back.contains sep then
    let last := back.takeWhile (· ≠ sep)
    some ((back.drop (last.length + 1)).reverse, last.reverse)
  else none

/-- What stands behind the user, who ends with the last `@`. -/
def behindUser (authority : List Char) : List Char :=
  match splitLast '@' authority with
  | some (_, host) => host
  | none => authority

/-- What stands in front of the port, which is digits behind the last colon. -/
def beforePort (hostPort : List Char) : List Char :=
  match splitLast ':' hostPort with
  | some (host, port) => if port.all Char.isDigit then host else hostPort
  | none => hostPort

/-- The host of a reference to an image, which usually has no scheme: it stands behind the user, and
in front of the port, the path and whatever else follows. -/
def imageHost? (image : String) : Option String :=
  let cs := image.toList
  let rest := (behind "://".toList cs).getD cs
  let authority := rest.takeWhile fun c => c ≠ '/' && c ≠ '?' && c ≠ '#'
  let host := beforePort (behindUser authority)
  if host.isEmpty then none else some (String.ofList host)

def vendorHosts : String :=
  "(^|\\.)(openshift\\.org|registry\\.redhat\\.io|registry\\.access\\.redhat\\.com)$"

def isVendorHost (host : String) : Bool := (Pattern.ofString? vendorHosts).any (·.isMatch host)

def isVendorImage (image : String) : Bool := (imageHost? image).any isVendorHost

abbrev ImageCounts : Type := List (Nat × Nat)

/-- The images by their numbers, and by month how often each was run, all ascending; and the number
of each image. -/
structure ContainerInfo where
  images : List (Nat × String)
  months : List (String × ImageCounts)
  numbers : List (String × Nat)
  deriving DecidableEq, Repr

namespace ContainerInfo

def empty : ContainerInfo := ⟨[], [], []⟩

/-- The number of an image. One that is new gets the count of the images so far. -/
def number (info : ContainerInfo) (image : String) : Nat × ContainerInfo :=
  match info.numbers.lookup image with
  | some index => (index, info)
  | none =>
    let index := info.images.length
    (index, { info with
      images := Keyed.upsert index (fun _ => image) info.images
      numbers := Keyed.insert image index info.numbers })

def count (index : Nat) : ImageCounts → ImageCounts :=
  Keyed.upsert index fun times => times.getD 0 + 1

def add (info : ContainerInfo) (image month : String) : ContainerInfo :=
  let (index, info) := info.number image
  { info with months := Keyed.upsert month (fun counts =>
    count index (counts.getD [])) info.months }

def toJson (info : ContainerInfo) : Json :=
  .obj [("images", .obj (info.images.map fun (i, image) => (toString i, .str image))),
    ("containers", .obj (info.months.map fun (month, counts) =>
      (month, .obj (counts.map fun (i, n) => (toString i, .int n)))))]

end ContainerInfo

def creationMonth (pod : Json) : String :=
  match pod.timeAt? ["metadata", "creationTimestamp"] with
  | some t =>
    let date := (Rfc3339.clock t).date
    String.ofList (Rfc3339.year date.year ++ '-' :: Rfc3339.padded 2 date.month)
  | none => ""

def imagePodsPageSize : Nat := 200

/-- Whether a pod is recorded instead of counted: one of the platform that is restarted over and
over. -/
def isRecordedPod (pod : Json) : Bool := pod.namespaceOf.startsWith "openshift" && hasCrashLoop pod

def vendorImages (pod : Json) : List String :=
  if pod.stringAt? ["status", "phase"] = some "Running" then
    ((pod.itemsAt ["spec", "containers"]).map fun c => c.stringAt ["image"]).filter isVendorImage
  else []

def runningImages (pods : List Json) : ContainerInfo :=
  (pods.filter fun pod => !isRecordedPod pod).foldl
    (fun info pod => (vendorImages pod).foldl
        (fun info image => info.add image (creationMonth pod)) info) .empty

def containerImages {σ : Type} (c : Client σ) : Gather σ (List Record) := do
  let paged ← Gather.call (((Pager.of .pods).withLimit imagePodsPageSize).collect c)
  let records : List Record := (paged.items.filter isRecordedPod).map fun pod =>
    .of ("config/pod/" ++ pod.namespaceOf ++ "/" ++ pod.name) (.redacted .pod pod)
  return records ++ [.of "config/running_containers" (.json (runningImages paged.items).toJson)]

end ClusterSurvey.Survey
