import ClusterSurvey.Bytes.Base64
import ClusterSurvey.Bytes.Utf8
import ClusterSurvey.Redaction.FreeText

/-!
What is sensitive in each kind of resource. A rule masks the texts at fixed places and leaves the
rest of the tree alone; only the rule for webhooks can fail, on a bundle that is no base64.
-/
namespace ClusterSurvey.Redaction

def maskAll (mask : String → String) (paths : List (List String)) (tree : Json) : Json :=
  paths.foldl (fun t path => t.replaceStringIfPresent path mask) tree

/-- Annotations of others are emptied, their labels masked, and so are the addresses and identifiers
of the machine; the list of images is dropped. -/
def redactNode (node : Json) : Json :=
  let node := node.modifyAt ["metadata", "annotations"]
    (Json.mapMembers fun key v => if isProductKey key then v else .str "")
  let node := node.modifyAt ["metadata", "labels"]
    (Json.mapMembers fun key v => if isProductKey key then v else v.mapString maskText)
  let node := node.modifyAt ["status", "addresses"]
    (Json.mapItems fun a => a.replaceStringIfPresent ["address"] maskAddress)
  let node := maskAll maskText
    [["status", "nodeInfo", "bootID"], ["status", "nodeInfo", "systemUUID"],
      ["status", "nodeInfo", "machineID"]]
    node
  node.modifyAt ["status"] (Json.removeMember "images")

def redactInfrastructure (infrastructure : Json) : Json :=
  maskAll maskAddress
    [["status", "apiServerURL"], ["status", "etcdDiscoveryDomain"],
      ["status", "infrastructureName"],
      ["status", "apiServerInternalURI"]]
    infrastructure

def redactIngress (ingress : Json) : Json := maskAll maskAddress [["spec", "domain"]] ingress

def redactClusterVersion (version : Json) : Json :=
  maskAll maskAddress [["spec", "upstream"]] version

def redactProxy (proxy : Json) : Json :=
  let proxy := maskAll maskAddressList
    [["spec", "httpProxy"], ["spec", "httpsProxy"], ["spec", "noProxy"], ["status", "httpProxy"],
      ["status", "httpsProxy"], ["status", "noProxy"]]
    proxy
  proxy.modifyAt ["spec", "readinessEndpoints"] (Json.mapItems (Json.mapString maskAddress))

def redactImageRegistry (config : Json) : Json :=
  let storage := fun (backend : String) (fields : List String) =>
    fields.map fun field => ["spec", "storage", backend, field]
  maskAll maskText
    (["spec", "httpSecret"] :: (storage "s3" ["bucket", "keyID", "regionEndpoint", "region"]
      ++ storage "azure" ["accountName", "container"]
      ++ storage "gcs" ["bucket", "projectID", "keyID"]
      ++ storage "swift"
        ["authURL", "container", "domain", "domainID", "tenant", "tenantID", "regionName"]))
    config

/-- The base64 of as many `x` as the text encodes bytes. -/
def maskBundle (encoded : String) : Except GatherError String :=
  match Base64.decode (Bytes.ofString encoded) with
  | .ok decoded => .ok (Base64.encode (List.replicate decoded.length 120))
  | .error e => .error (.anonymization ("invalid caBundle: " ++ e.message))

def redactWebhook (webhook : Json) : Except GatherError Json :=
  match webhook.stringAt? ["clientConfig", "caBundle"] with
  | some encoded => do
    let masked ← maskBundle encoded
    return webhook.replaceStringIfPresent ["clientConfig", "caBundle"] fun _ => masked
  | none => .ok webhook

/-- The bundles of all webhooks; the first one that is no base64 makes the rule fail. -/
def redactWebhooks (configuration : Json) : Except GatherError Json :=
  match (configuration.get? "webhooks").bind Json.asArray? with
  | some webhooks => do
    let masked ← webhooks.mapM redactWebhook
    return configuration.modifyAt ["webhooks"] fun _ => .arr masked
  | none => .ok configuration

def redactPod (pod : Json) : Json :=
  ["containers", "initContainers"].foldl
    (fun p list => p.modifyAt ["spec", list] (Json.mapItems redactEnvironment)) pod

inductive Kind where
  | node
  | infrastructure
  | ingress
  | clusterVersion
  | proxy
  | imageRegistry
  | mutatingWebhook
  | pod
  | operatorResource
  deriving DecidableEq, Repr

def Kind.redact : Kind → Json → Except GatherError Json
  | .node, tree => .ok (redactNode tree)
  | .infrastructure, tree => .ok (redactInfrastructure tree)
  | .ingress, tree => .ok (redactIngress tree)
  | .clusterVersion, tree => .ok (redactClusterVersion tree)
  | .proxy, tree => .ok (redactProxy tree)
  | .imageRegistry, tree => .ok (redactImageRegistry tree)
  | .mutatingWebhook, tree => redactWebhooks tree
  | .pod, tree => .ok (redactPod tree)
  | .operatorResource, tree => .ok (maskTexts tree)

end ClusterSurvey.Redaction
