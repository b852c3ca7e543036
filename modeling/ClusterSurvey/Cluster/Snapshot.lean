import ClusterSurvey.Cluster.Client
import ClusterSurvey.Json.Path
import ClusterSurvey.Text.Split

/-!
A cluster held as data: the objects of each kind, logs, and answers to other paths. Its client
writes down each call, and can be told to let calls fail. Lists come in pages whose token is the
number of objects before the next page.
-/
namespace ClusterSurvey

structure Snapshot where
  /-- Objects by the label of their kind. -/
  objects : List (String × List Json)
  /-- Logs by namespace, pod and container, with `/previous` behind the log of an earlier run. -/
  logs : List (String × ByteStream)
  /-- Answers by path and parameters. -/
  raw : List (String × Bytes)
  /-- Failures of the calls whose text begins with the given one; the first that fits counts. -/
  failures : List (String × ClusterError)
  /-- The most objects on a page, if there is a bound. -/
  pageSize : Option Nat

namespace Snapshot

def queryText (query : List (String × String)) : String :=
  "&".intercalate (query.map fun (k, v) => k ++ "=" ++ v)

def failure? (s : Snapshot) (call : String) : Option ClusterError :=
  (s.failures.find? fun f => f.1.toList.isPrefixOf call.toList).map (·.2)

def answer {α : Type} (s : Snapshot) (call : String) (x : Except ClusterError α) :
    StateM (List String) (Except ClusterError α) := do
  modify (call :: ·)
  match s.failure? call with
  | some e => return .error e
  | none => return x

def inNamespace (s : Snapshot) (r : ApiResource) (ns : Option String) : List Json :=
  let all := (s.objects.lookup r.label).getD []
  match r.effectiveNamespace ns with
  | some n => all.filter fun o => o.namespaceOf = n
  | none => all

def splitTerm (term : List Char) : Option (String × String) :=
  if term.contains '=' then
    let key := term.takeWhile (· ≠ '=')
    some (String.ofList key, String.ofList (term.drop (key.length + 1)))
  else none

/-- Whether an object has the labels that a selector asks for; only equalities are looked at. -/
def selected (selector : String) (o : Json) : Bool :=
  (Text.splitAt ',' selector.toList).all fun term =>
    match splitTerm term with
    | some (k, v) => o.stringAt? ["metadata", "labels", k] = some v
    | none => true

def tokenValue (token : Option String) : Nat := (token.bind String.toNat?).getD 0

def page (s : Snapshot) (r : ApiResource) (ns : Option String) (o : ListOptions) : ResourcePage :=
  let all := (s.inNamespace r ns).filter fun x => o.labelSelector.all (selected · x)
  let first := min (tokenValue o.continueToken) all.length
  let size := match o.limit, s.pageSize with
    | some a, some b => min a b
    | some a, none => a
    | none, some b => b
    | none, none => all.length
  let last := min (first + size) all.length
  ⟨(all.drop first).take (last - first), if last < all.length then some (toString last) else none⟩

/-- The client of a snapshot, whose state is the calls made, the last one first. -/
def client (s : Snapshot) : Client (List String) where
  pageBound := (s.objects.map fun o => o.2.length).foldl max 0 + 2
  list r ns o :=
    s.answer ("list " ++ r.path ns none ++ "?" ++ queryText o.query) (.ok (s.page r ns o))
  get r ns name :=
    s.answer ("get " ++ r.path ns (some name)) <|
      match (s.inNamespace r ns).find? fun o => o.stringAt? ["metadata", "name"] = some name with
      | some o => .ok o
      | none => .error (.notFound (r.label ++ " " ++ name))
  logs ns pod o :=
    let key := ns ++ "/" ++ pod ++ "/" ++ o.container ++ (if o.previous then "/previous" else "")
    s.answer ("logs " ++ ns ++ "/" ++ pod ++ "?" ++ queryText o.query) <|
      match s.logs.lookup key with
      | some log => .ok log
      | none => .error (.notFound ("logs " ++ key))
  raw path query :=
    let key := path ++ "?" ++ queryText query
    s.answer ("raw " ++ key) <|
      match s.raw.lookup key with
      | some body => .ok body
      | none => .error (.notFound key)

end Snapshot

end ClusterSurvey
