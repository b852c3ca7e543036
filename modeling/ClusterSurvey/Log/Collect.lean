import ClusterSurvey.Log.Filter
import ClusterSurvey.Survey.Output
import ClusterSurvey.Text.Blank

/-!
Filtered logs of the containers of chosen pods. In each namespace the first containers up to a
maximum are read; a warning tells how many were not. A log of which nothing is left makes no record.
-/
namespace ClusterSurvey

namespace Log

/-- Which containers logs are collected from. -/
structure Selection where
  namespaces : List String
  labelSelector : Option String
  fieldSelector : Option String
  podName : Option Pattern
  containerName : Option Pattern
  /-- How many containers of a namespace are read at most, 0 for all. -/
  maxContainers : Nat

namespace Selection

def of (ns : String) : Selection := ⟨[ns], none, none, none, none, 0⟩

def allows (p : Option Pattern) (name : String) : Bool := p.all fun p => p.isMatch name

def containers (s : Selection) (pod : Json) : List String :=
  (pod.itemsAt ["spec", "containers"] ++ pod.itemsAt ["spec", "initContainers"]).filterMap
    (fun c => (c.get? "name").bind Json.asString?) |>.filter (allows s.containerName)

def options (s : Selection) : ListOptions := ⟨s.labelSelector, s.fieldSelector, none, none⟩

end Selection

def errorsLogName (ns pod _container : String) : String :=
  "config/pod/" ++ ns ++ "/logs/" ++ pod ++ "/errors.log"

def podsPageSize : Nat := 500

def collectOne {σ : Type} (c : Client σ) (cancelled : Bool) (filter : Filter)
    (fileName : String → String → String → String) (ns pod container : String) :
    Gather σ (List Record) := do
  let stream ← Gather.call (c.logs ns pod (filter.options container))
  let text ← Gather.ofExcept (filterLog stream filter id cancelled)
  if (Text.trim text.toList).isEmpty then return []
  return [.of (fileName ns pod container) (.raw (Bytes.ofString text))]

/-- How many containers of a namespace were read and how many were skipped so far, and the records
of those read. -/
structure ContainerTally where
  read : Nat
  skipped : Nat
  records : List Record

namespace ContainerTally

def start : ContainerTally := ⟨0, 0, []⟩

def warnings (t : ContainerTally) (s : Selection) (ns : String) : List GatherError :=
  if t.skipped = 0 then []
  else [.warning s!"skipping {t.skipped} containers on namespace {ns} (max: {s.maxContainers})"]

end ContainerTally

/-- Reads the log of a container, or skips it where the maximum is reached. -/
def collectContainer {σ : Type} (c : Client σ) (cancelled : Bool) (s : Selection) (filter : Filter)
    (fileName : String → String → String → String) (ns pod : String) (t : ContainerTally)
    (container : String) :
    Gather σ ContainerTally := do
  if 0 < s.maxContainers ∧ s.maxContainers ≤ t.read then
    return { t with skipped := t.skipped + 1 }
  let records ← collectOne c cancelled filter fileName ns pod container
  return { t with read := t.read + 1, records := t.records ++ records }

def collectPod {σ : Type} (c : Client σ) (cancelled : Bool) (s : Selection) (filter : Filter)
    (fileName : String → String → String → String) (ns : String) (t : ContainerTally) (pod : Json) :
    Gather σ ContainerTally :=
  if Selection.allows s.podName pod.name then
    (s.containers pod).foldlM (collectContainer c cancelled s filter fileName ns pod.name) t
  else return t

def collectNamespace {σ : Type} (c : Client σ) (cancelled : Bool) (s : Selection) (filter : Filter)
    (fileName : String → String → String → String) (ns : String) :
    Gather σ (List Record × List GatherError) := do
  let pager := (((Pager.of .pods).within ns).withOptions s.options).withLimit podsPageSize
  let pods ← Gather.call (pager.collect c)
  let tally ← pods.items.foldlM (collectPod c cancelled s filter fileName ns) .start
  return (tally.records, tally.warnings s ns)

/-- The records and warnings of all namespaces. The first failure ends the collection. -/
def collect {σ : Type} (c : Client σ) (cancelled : Bool) (s : Selection) (filter : Filter)
    (fileName : String → String → String → String) : Gather σ (List Record × List GatherError) := do
  let parts ← s.namespaces.mapM (collectNamespace c cancelled s filter fileName)
  return (parts.flatMap (·.1), parts.flatMap (·.2))

end Log

end ClusterSurvey
