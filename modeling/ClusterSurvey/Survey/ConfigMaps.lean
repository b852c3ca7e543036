import ClusterSurvey.Survey.Output

/-!
Configuration maps of the platform. Values of the platform's configuration are recorded as text or
as binary data with their certificates masked; values of the monitoring configuration are YAML and
recorded as JSON.
-/
namespace ClusterSurvey.Survey

variable {σ : Type}

def configNamespace : String := "openshift-config"

def monitoringNamespace : String := "openshift-monitoring"

def monitoringName : String := "cluster-monitoring-config"

def textMembers (key : String) (o : Json) : List (String × String) :=
  (((o.get? key).bind Json.asObject?).getD []).filterMap fun (k, v) => v.asString?.map (k, ·)

def configMapPath (ns name key : String) : String :=
  "config/configmaps/" ++ ns ++ "/" ++ name ++ "/" ++ key

/-- The records of a configuration map: its texts, and its binary values that are valid base64. -/
def configMapRecords (configMap : Json) : List Record :=
  let path := configMapPath configMap.namespaceOf configMap.name
  ((textMembers "data" configMap).map fun (k, v) => .of (path k) (.config .text (Bytes.ofString v)))
    ++ (textMembers "binaryData" configMap).filterMap fun (k, v) =>
      match Base64.decode (Bytes.ofString v) with
      | .ok data => some (.of (path k) (.config .base64 data))
      | .error _ => none

/-- A key without `.yaml` at its end, however often it stands there. -/
def dropYamlExtension (key : String) : String :=
  let ending := ".yaml".toList.reverse
  let rec drop : (fuel : Nat) → List Char → List Char
    | 0, cs => cs
    | fuel + 1, cs => if ending.isPrefixOf cs then drop fuel (cs.drop ending.length) else cs
  String.ofList (drop key.length key.toList.reverse).reverse

def monitoringRecords (configMap : Json) : List Record :=
  (textMembers "data" configMap).map fun (k, v) =>
    .of (configMapPath monitoringNamespace monitoringName (dropYamlExtension k))
      (.config .yaml (Bytes.ofString v))

def monitoringConfig (c : Client σ) : StateM σ (List Record) := do
  match ← c.find .configMaps (some monitoringNamespace) monitoringName with
  | .ok (some configMap) => return monitoringRecords configMap
  | _ => return []

def configMaps (c : Client σ) : StateM σ Output := do
  let output : Output ← do
    match ← listAll c .configMaps (some configNamespace) with
    | .ok maps => pure ⟨maps.flatMap configMapRecords, []⟩
    | .error e => pure ⟨[], [.cluster e]⟩
  return { output with records := output.records ++ (← monitoringConfig c) }

end ClusterSurvey.Survey
