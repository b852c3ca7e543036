import ClusterSurvey.Proofs.Redaction.Rules
import ClusterSurvey.Proofs.Text.Split
import ClusterSurvey.Record.Item

/-!
The rules of the kinds of resources. For each kind whose sensitive values are told by their places,
leaving out the bookkeeping and redacting what remains is what the rules say.
-/
namespace ClusterSurvey

namespace Redaction

open Json (Step Place Node)

def managedRules : List Rule :=
  [⟨[.member "metadata", .member "managedFields"], .dropped⟩,
    ⟨[.member "metadata", .member "annotations", .member lastAppliedAnnotation], .dropped⟩]

def storageFields : List (List String) :=
  [["s3", "bucket"], ["s3", "keyID"], ["s3", "regionEndpoint"], ["s3", "region"],
    ["azure", "accountName"], ["azure", "container"],
    ["gcs", "bucket"], ["gcs", "projectID"], ["gcs", "keyID"],
    ["swift", "authURL"], ["swift", "container"], ["swift", "domain"], ["swift", "domainID"],
    ["swift", "tenant"], ["swift", "tenantID"], ["swift", "regionName"]]

/-- Whether one of some texts is a part of a name. -/
def holdsOneOf (parts : List String) (name : String) : Bool :=
  parts.any fun part => decide (part.toList <:+: name.toList)

def isForeign (key : String) : Bool :=
  !holdsOneOf ["openshift.io/", "k8s.io/", "kubernetes.io/"] key

def nodeRules : List Rule :=
  [⟨[.member "metadata", .member "annotations", .members isForeign], .emptied⟩,
    ⟨[.member "metadata", .member "labels", .members isForeign], .masked .text⟩,
    ⟨[.member "status", .member "addresses", .items, .member "address"], .masked .address⟩,
    masks .text ["status", "nodeInfo", "bootID"],
    masks .text ["status", "nodeInfo", "systemUUID"],
    masks .text ["status", "nodeInfo", "machineID"],
    ⟨[.member "status", .member "images"], .dropped⟩]

def infrastructureRules : List Rule :=
  [masks .address ["status", "apiServerURL"],
    masks .address ["status", "etcdDiscoveryDomain"],
    masks .address ["status", "infrastructureName"],
    masks .address ["status", "apiServerInternalURI"]]

def proxyRules : List Rule :=
  [masks .addressList ["spec", "httpProxy"],
    masks .addressList ["spec", "httpsProxy"],
    masks .addressList ["spec", "noProxy"],
    masks .addressList ["status", "httpProxy"],
    masks .addressList ["status", "httpsProxy"],
    masks .addressList ["status", "noProxy"],
    ⟨[.member "spec", .member "readinessEndpoints", .items], .masked .address⟩]

def imageRegistryRules : List Rule :=
  masks .text ["spec", "httpSecret"] :: storageFields.map fun place =>
    masks .text ("spec" :: "storage" :: place)

/-- The values of variables for proxies, in each list of containers of a specification. -/
def environmentRules : List Rule :=
  ["containers", "initContainers"].map fun list =>
    ⟨[.member list, .items, .member "env",
      .itemsNamed (holdsOneOf ["HTTP_PROXY", "HTTPS_PROXY"]), .member "value"], .masked .text⟩

def podRules : List Rule := environmentRules.map (Rule.under (.member "spec"))

/-- What is sensitive in the kinds whose sensitive values are told by their places. -/
def Kind.rules? : Kind → Option (List Rule)
  | .node => some nodeRules
  | .infrastructure => some infrastructureRules
  | .ingress => some [masks .address ["spec", "domain"]]
  | .clusterVersion => some [masks .address ["spec", "upstream"]]
  | .proxy => some proxyRules
  | .imageRegistry => some imageRegistryRules
  | .pod => some podRules
  | .mutatingWebhook | .operatorResource => none

theorem apart_masks {first second : List String} (other : first ≠ second) (mask : Mask) :
    apartPaths (masks mask first).path (masks mask second).path = true := by
  simp only [masks]
  induction first generalizing second with
  | nil =>
    cases second with
    | nil => exact absurd rfl other
    | cons key rest => rfl
  | cons key rest ih =>
    cases second with
    | nil => rfl
    | cons key' rest' =>
      by_cases same : key = key'
      · subst same
        have later := ih fun equal => other (congrArg (key :: ·) equal)
        simp [apartPaths, later]
      · simp [apartPaths, Selector.apart, same]

theorem redacts_maskAll (mask : Mask) (paths : List (List String)) (once : paths.Nodup) :
    Redacts (maskAll mask.apply paths) (paths.map (masks mask)) := by
  induction paths with
  | nil => exact redacts_nothing
  | cons path paths ih =>
    obtain ⟨new, rest⟩ := List.nodup_cons.mp once
    refine redacts_then (redacts_masks mask path) (ih rest) (fun v => marking_fixed ?_ _ _) ?_
    · intro r member
      obtain ⟨p, _, rfl⟩ := List.mem_map.mp member
      simp [masks, Selector.isFixed]
    · intro r here r' member
      obtain ⟨p, present, rfl⟩ := List.mem_map.mp member
      rw [List.mem_singleton.mp here]
      exact apart_masks (fun equal : path = p => new (equal ▸ present)) mask

theorem redacts_stripManaged : Redacts stripManaged managedRules := by
  have parts := redacts_then (redacts_remove "managedFields")
    (redacts_member (redacts_remove lastAppliedAnnotation) "annotations")
    (fun v => marking_fixed (by simp [Rule.under, Selector.isFixed]) _ _)
    (by simp [Rule.under, apartPaths, Selector.apart])
  exact redacts_member parts "metadata"

theorem holdsOneOf_eq (parts : List String) (name : String) :
    holdsOneOf parts name = parts.any fun part => Text.occursIn part.toList name.toList := by
  refine congrArg parts.any (funext fun part => ?_)
  rw [Bool.eq_iff_iff, decide_eq_true_iff, Text.occursIn_iff]

theorem isForeign_eq (key : String) : isForeign key = !isProductKey key := by
  rw [isForeign, holdsOneOf_eq]
  rfl

theorem isProxyVariable_eq : isProxyVariable = holdsOneOf ["HTTP_PROXY", "HTTPS_PROXY"] := by
  funext name
  rw [holdsOneOf_eq, List.any_cons, List.any_cons, List.any_nil, Bool.or_false]
  rfl

theorem redacts_foreignMembers {f : Json → Json} {rules : List Rule} (redacts : Redacts f rules) :
    Redacts (Json.mapMembers fun key v => if isProductKey key then v else f v)
      (rules.map (Rule.under (.members isForeign))) := by
  have turned : (fun key v => if isProductKey key then v else f v) =
      fun key v => if isForeign key then f v else v := by
    funext key v
    rw [isForeign_eq]
    cases isProductKey key <;> rfl
  rw [turned]
  exact redacts_members redacts isForeign

theorem redacts_node : Redacts redactNode nodeRules := by
  have annotations :=
    redacts_path (redacts_foreignMembers redacts_empty) ["metadata", "annotations"]
  have labels := redacts_path (redacts_foreignMembers (redacts_mask .text)) ["metadata", "labels"]
  have addresses :=
    redacts_path (redacts_items (redacts_masks .address ["address"])) ["status", "addresses"]
  have identifiers := redacts_maskAll .text
    [["status", "nodeInfo", "bootID"], ["status", "nodeInfo", "systemUUID"],
      ["status", "nodeInfo", "machineID"]]
    (by decide)
  have images := redacts_path (redacts_remove "images") ["status"]
  have metadata :=
    redacts_then annotations labels (fun _ => marking_fixed (by decide) _ _) (by decide)
  have addressed :=
    redacts_then metadata addresses (fun _ => marking_fixed (by decide) _ _) (by decide)
  have identified :=
    redacts_then addressed identifiers (fun _ => marking_fixed (by decide) _ _) (by decide)
  exact redacts_then identified images (fun _ => marking_fixed (by decide) _ _) (by decide)

theorem redacts_infrastructure : Redacts redactInfrastructure infrastructureRules :=
  redacts_maskAll .address
    [["status", "apiServerURL"], ["status", "etcdDiscoveryDomain"],
      ["status", "infrastructureName"],
      ["status", "apiServerInternalURI"]]
    (by decide)

theorem redacts_proxy : Redacts redactProxy proxyRules := by
  have fields := redacts_maskAll .addressList
    [["spec", "httpProxy"], ["spec", "httpsProxy"], ["spec", "noProxy"], ["status", "httpProxy"],
      ["status", "httpsProxy"], ["status", "noProxy"]]
    (by decide)
  have endpoints :=
    redacts_path (redacts_items (redacts_mask .address)) ["spec", "readinessEndpoints"]
  exact redacts_then fields endpoints (fun _ => marking_fixed (by decide) _ _) (by decide)

theorem redacts_imageRegistry : Redacts redactImageRegistry imageRegistryRules :=
  redacts_maskAll .text (["spec", "httpSecret"] :: storageFields.map fun place =>
    "spec" :: "storage" :: place)
    (by decide)

theorem marking_modifyAt_other {key other : String} (apart : key ≠ other) (rules : List Rule)
    (f : Json → Json) (v : Json) :
    marking (rules.map (Rule.under (.member key))) (v.modifyAt [other] f).view =
      marking (rules.map (Rule.under (.member key))) v.view := by
  funext p
  cases p with
  | nil => exact marking_root _ _ _
  | cons t p =>
    rw [marking_under_step, marking_under_step, selects_member, selects_member]
    by_cases here : t = .member key
    · have elsewhere : t ≠ .member other :=
        fun same => apart (Step.member.inj (here.symm.trans same))
      have unchanged : (v.modifyAt [other] f).child t = v.child t := by
        rw [Json.child_modifyAt, if_neg elsewhere, Option.map_id_fun, id]
      simp only [Json.view_step, unchanged]
    · simp [here]

theorem redacts_variable : Redacts (Json.mapItems redactVariable)
    [⟨[.itemsNamed (holdsOneOf ["HTTP_PROXY", "HTTPS_PROXY"]), .member "value"],
      .masked .text⟩] := by
  have chosen : redactVariable = fun entry =>
      if named isProxyVariable entry then entry.modifyAt ["value"] (Json.mapString Mask.text.apply)
        else entry := by
    funext entry
    rw [redactVariable, named]
    cases (entry.get? "name").bind Json.asString? <;> rfl
  rw [chosen, isProxyVariable_eq]
  exact redacts_itemsNamed (redacts_masks .text ["value"]) _

theorem redacts_pod : Redacts redactPod podRules := by
  have within : redactPod = Json.modifyAt ["spec"] fun spec =>
      (spec.modifyAt ["containers"] (Json.mapItems redactEnvironment)).modifyAt ["initContainers"]
        (Json.mapItems redactEnvironment) := by
    funext pod
    simp only [redactPod, List.foldl_cons, List.foldl_nil]
    rw [Json.modifyAt_cons, Json.modifyAt_cons "spec" ["containers"], Json.modifyAt_modifyAt]
    rfl
  have containers := redacts_items (redacts_path redacts_variable ["env"])
  have both :=
    redacts_then (redacts_member containers "containers")
      (redacts_member containers "initContainers")
    (fun v => marking_modifyAt_other (by decide) _ _ v) (by decide)
  rw [within]
  exact redacts_member both "spec"

theorem redacts_resource {f : Json → Json} {rules : List Rule} (redacts : Redacts f rules)
    (fixed : ∀ r ∈ rules, r.path.all Selector.isFixed = true)
    (apart : ∀ r ∈ managedRules, ∀ r' ∈ rules, apartPaths r.path r'.path = true) :
    Redacts (fun tree => f (stripManaged tree)) (managedRules ++ rules) :=
  redacts_then redacts_stripManaged redacts (fun _ => marking_fixed fixed _ _) apart

theorem redacts_podResource :
    Redacts (fun tree => redactPod (stripManaged tree)) (managedRules ++ podRules) :=
  redacts_then redacts_stripManaged redacts_pod
    (fun v => marking_modifyAt_other (by decide) environmentRules _ v) (by decide)

theorem redacts_kind {kind : Kind} {rules : List Rule} (placed : kind.rules? = some rules) :
    ∃ f, (∀ tree, kind.redact (stripManaged tree) = .ok (f tree)) ∧
      Redacts f (managedRules ++ rules) := by
  cases kind with
  | node =>
    cases placed
    exact ⟨_, fun _ => rfl, redacts_resource redacts_node (by decide) (by decide)⟩
  | infrastructure =>
    cases placed
    exact ⟨_, fun _ => rfl, redacts_resource redacts_infrastructure (by decide) (by decide)⟩
  | ingress =>
    cases placed
    have domain := redacts_maskAll .address [["spec", "domain"]] (by decide)
    exact ⟨_, fun _ => rfl, redacts_resource domain (by decide) (by decide)⟩
  | clusterVersion =>
    cases placed
    have upstream := redacts_maskAll .address [["spec", "upstream"]] (by decide)
    exact ⟨_, fun _ => rfl, redacts_resource upstream (by decide) (by decide)⟩
  | proxy =>
    cases placed
    exact ⟨_, fun _ => rfl, redacts_resource redacts_proxy (by decide) (by decide)⟩
  | imageRegistry =>
    cases placed
    exact ⟨_, fun _ => rfl, redacts_resource redacts_imageRegistry (by decide) (by decide)⟩
  | pod =>
    cases placed
    exact ⟨_, fun _ => rfl, redacts_podResource⟩
  | mutatingWebhook => cases placed
  | operatorResource => cases placed

end Redaction

end ClusterSurvey
