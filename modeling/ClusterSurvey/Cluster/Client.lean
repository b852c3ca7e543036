import ClusterSurvey.Cluster.Resource
import ClusterSurvey.Error
import ClusterSurvey.Bytes.Basic
import ClusterSurvey.Json.Basic

/-!
Access to a cluster. A client may keep a state of any type, so what is said of clients holds for one
that answers each call differently.
-/
namespace ClusterSurvey

structure ListOptions where
  labelSelector : Option String
  fieldSelector : Option String
  limit : Option Nat
  continueToken : Option String
  deriving DecidableEq, Repr

namespace ListOptions

def all : ListOptions := ⟨none, none, none, none⟩

def labels (selector : String) : ListOptions := { all with labelSelector := some selector }

def query (o : ListOptions) : List (String × String) :=
  (o.labelSelector.map ("labelSelector", ·)).toList
    ++ (o.fieldSelector.map ("fieldSelector", ·)).toList
    ++ (o.limit.map fun n => ("limit", toString n)).toList
    ++ ((o.continueToken.filter fun t => !t.isEmpty).map ("continue", ·)).toList

end ListOptions

/-- The options of a request for the log of a container. Numbers that are not positive are left
out. -/
structure LogOptions where
  container : String
  sinceSeconds : Int
  limitBytes : Int
  tailLines : Int
  previous : Bool
  deriving DecidableEq, Repr

namespace LogOptions

def positive (name : String) (n : Int) : List (String × String) :=
  if 0 < n then [(name, toString n)] else []

/-- The parameters of a request for a log. Lines always come with their times. -/
def query (o : LogOptions) : List (String × String) :=
  (if o.container.isEmpty then [] else [("container", o.container)])
    ++ positive "sinceSeconds" o.sinceSeconds
    ++ positive "limitBytes" o.limitBytes
    ++ positive "tailLines" o.tailLines
    ++ (if o.previous then [("previous", "true")] else [])
    ++ [("timestamps", "true")]

end LogOptions

/-- One page of a list. A continue token tells that there are more objects. -/
structure ResourcePage where
  items : List Json
  continueToken : Option String

/-- A stream of bytes: the pieces in which it is delivered, and the failure that ends it early, if
one does. -/
structure ByteStream where
  chunks : List Bytes
  failure : Option String

/-- A client of a cluster with a state. A namespace of `none` stands for all namespaces. -/
structure Client (σ : Type) where
  /-- More pages than any of its lists has. -/
  pageBound : Nat
  list : ApiResource → Option String → ListOptions → StateM σ (Except ClusterError ResourcePage)
  get : ApiResource → Option String → String → StateM σ (Except ClusterError Json)
  logs : String → String → LogOptions → StateM σ (Except ClusterError ByteStream)
  raw : String → List (String × String) → StateM σ (Except ClusterError Bytes)

/-- The object with a name, nothing if it does not exist. -/
def Client.find {σ : Type} (c : Client σ) (r : ApiResource) (ns : Option String) (name : String) :
    StateM σ (Except ClusterError (Option Json)) := do
  match ← c.get r ns name with
  | .ok v => return .ok (some v)
  | .error e => return if e.isNotFound then .ok none else .error e

end ClusterSurvey
