import ClusterSurvey.Bytes.Utf8
import ClusterSurvey.Cluster.Client
import ClusterSurvey.Json.Path
import ClusterSurvey.Json.Reader
import ClusterSurvey.Settings
import ClusterSurvey.Transport.Address
import ClusterSurvey.Transport.TrustAnchors

/-!
The client that asks the interface of a cluster. It makes addresses of paths and parameters, and
cluster errors of answers; how requests get to the cluster is left to a wire with a state of its
own.
-/
namespace ClusterSurvey.Transport

structure Request where
  address : Address
  accept : String
  authorization : Option String

inductive Delivery where
  | unreachable
  | answered (status : Nat) (body : Bytes) (complete : Bool)

abbrev Wire (σ : Type) : Type := Request → StateM σ Delivery

/-- What a client adds to each path, and what it shows to be let in. -/
structure ApiClient where
  baseUrl : String
  authorization : Option String

namespace ApiClient

def badBody : String := "error decoding response body"

def badRequest : String := "builder error"

def token? (file : Option Bytes) : Option String :=
  ((file.bind Utf8.text?).map Text.trimmed).filter fun t => !t.isEmpty

def fitsHeader (c : Char) : Bool := (0x20 ≤ c.toNat && c.toNat ≠ 0x7F) || c = '\t'

/-- A client of the interface at an address, given the contents of the files with the token and with
the certificates, as far as they exist. -/
def of (apiUrl : String) (tokenFile caFile : Option Bytes) : Except ClusterError ApiClient := do
  let authorization := (token? tokenFile).map ("Bearer " ++ ·)
  if (authorization.map String.toList).any fun cs => !cs.all fitsHeader then
    throw (.decode "invalid bearer token: failed to parse header value")
  if caFile.any fun file => !TrustAnchors.areUsable file then throw (.permanent 0 badRequest)
  return ⟨Settings.dropSlashes apiUrl, authorization⟩

def url (c : ApiClient) (path : String) : String :=
  if "http://".toList.isPrefixOf path.toList ∨ "https://".toList.isPrefixOf path.toList then path
  else c.baseUrl ++ path

def request (c : ApiClient) (path : String) (query : List (String × String)) :
    Except ClusterError Request :=
  match (Address.parse? (c.url path)).map (·.withQuery query) with
  | none => .error (.permanent 0 badRequest)
  | some address =>
    if address.isSendable then .ok ⟨address, "application/json", c.authorization⟩
    else .error (.permanent 0 (badRequest ++ " for url (" ++ String.ofList address.text ++ ")"))

/-- What an answer that tells of a failure says: the message of a status object, or else all of
it. -/
def statusMessage (body : Bytes) : String :=
  let text := Utf8.decodeLossy body
  match (Json.parse? text).bind fun v => (v.get? "message").bind Json.asString? with
  | some message => message
  | none => String.ofList (Text.trim text)

/-- The body of an answer, and whether it is complete. Answers of some statuses never have one. -/
def bodyOf (status : Nat) (body : Bytes) (complete : Bool) : Bytes × Bool :=
  if status = 204 ∨ status = 304 then ([], true) else (body, complete)

def send {σ : Type} (c : ApiClient) (wire : Wire σ) (path : String) (query : List (String × String))
    (what : String) : StateM σ (Except ClusterError (Bytes × Bool)) := do
  match c.request path query with
  | .error e => return .error e
  | .ok r =>
    match ← wire r with
    | .unreachable =>
      return .error (.transient 0
        ("error sending request for url (" ++ String.ofList r.address.text ++ ")"))
    | .answered status body complete =>
      let (body, complete) := bodyOf status body complete
      if 200 ≤ status ∧ status ≤ 299 then return .ok (body, complete)
      else return .error (.ofStatus status what (if complete then statusMessage body else ""))

def jsonOf (body : Bytes × Bool) : Except ClusterError Json :=
  match body.2, (Utf8.decode? body.1).bind Json.parse? with
  | true, some v => .ok v
  | _, _ => .error (.decode badBody)

def getJson {σ : Type} (c : ApiClient) (wire : Wire σ) (path : String)
    (query : List (String × String)) (what : String) : StateM σ (Except ClusterError Json) := do
  return (← c.send wire path query what).bind jsonOf

def itemKind? (list : Json) : Option String := do
  let kind ← (list.get? "kind").bind Json.asString?
  let ending := "List".toList
  if ending.isSuffixOf kind.toList then
    some (String.ofList (kind.toList.take (kind.length - ending.length))) else none

def withType (kind version : String) (object : Json) : Json :=
  let add (key value : String) (members : List (String × Json)) : List (String × Json) :=
    if (members.lookup key).isSome then members else Keyed.insert key (.str value) members
  match object with
  | .obj members => .obj (add "apiVersion" version (add "kind" kind members))
  | v => v

def pageOf (r : ApiResource) (list : Json) : Except ClusterError ResourcePage := do
  let items ← match list.get? "items" with
    | none => pure []
    | some .null => pure []
    | some (.arr items) => pure items
    | some _ => throw (.decode (r.label ++ " list has no items array"))
  let items := match itemKind? list with
    | some kind => items.map (withType kind r.apiVersion)
    | none => items
  return ⟨items, (list.stringAt? ["metadata", "continue"]).filter fun t => !t.isEmpty⟩

def streamOf (body : Bytes × Bool) : ByteStream := ⟨[body.1], if body.2 then none else some badBody⟩

/-- The client on a wire. No list has more pages than `pageBound`. -/
def client {σ : Type} (c : ApiClient) (wire : Wire σ) (pageBound : Nat) : Client σ where
  pageBound := pageBound
  list r ns o := do return (← c.getJson wire (r.path ns none) o.query r.label).bind (pageOf r)
  get r ns name := c.getJson wire (r.path ns (some name)) [] (r.label ++ " " ++ name)
  logs ns pod o := do
    let path := "/api/v1/namespaces/" ++ ns ++ "/pods/" ++ pod ++ "/log"
    return (← c.send wire path o.query ("logs of pod " ++ ns ++ "/" ++ pod)).map streamOf
  raw path query := do
    match ← c.send wire path query path with
    | .error e => return .error e
    | .ok (body, true) => return .ok body
    | .ok (_, false) => return .error (.permanent 0 badBody)

end ApiClient

end ClusterSurvey.Transport
