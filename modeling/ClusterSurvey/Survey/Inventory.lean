import ClusterSurvey.Survey.Output

/-!
Tasks that record each object of a kind, or a summary of them.
-/
namespace ClusterSurvey.Survey

variable {σ : Type}

def eachObject (c : Client σ) (r : ApiResource) (record : Json → Record) : Gather σ (List Record) :=
  do
  let items ← Gather.call (listAll c r none)
  return items.map record

def eachResource (c : Client σ) (r : ApiResource) (name : Json → String) : Gather σ (List Record) :=
  eachObject c r fun o => .of (name o) (.resource o)

def maxDisruptionBudgets : Nat := 5000

def disruptionBudgetName (budget : Json) : String :=
  let ns := budget.namespaceOf
  if ns.isEmpty then "config/pdbs/" ++ budget.name else "config/pdbs/" ++ ns ++ "/" ++ budget.name

def disruptionBudgets (c : Client σ) : Gather σ (List Record) := do
  let pager :=
    ((Pager.of .podDisruptionBudgets).withLimit maxDisruptionBudgets).withCap maxDisruptionBudgets
  match ← Gather.callUnlessMissing (pager.collect c) with
  | none => return []
  | some paged => return paged.items.map fun b => .of (disruptionBudgetName b) (.resource b)

def nodes (c : Client σ) : Gather σ (List Record) :=
  eachObject c .nodes fun node => .of ("config/node/" ++ node.name) (.redacted .node node)

def definitionNames : List String :=
  ["volumesnapshots.snapshot.storage.k8s.io", "volumesnapshotcontents.snapshot.storage.k8s.io"]

/-- The definitions of volume snapshots. One that cannot be read does not keep the others back. -/
def definitions (c : Client σ) : StateM σ Output := do
  let outputs ← definitionNames.mapM fun name => do
    match ← c.find .customResourceDefinitions none name with
    | .ok (some definition) =>
        return (⟨[.of ("config/crd/" ++ name) (.resource definition)], []⟩ : Output)
    | .ok none => return ⟨[], []⟩
    | .error e => return ⟨[], [.cluster e]⟩
  return ⟨outputs.flatMap (·.records), outputs.flatMap (·.errors)⟩

def hostSubnets (c : Client σ) : Gather σ (List Record) :=
  eachResource c .hostSubnets fun o => "config/hostsubnet/" ++ o.stringAt ["host"]

def netNamespaceJson (o : Json) : Json :=
  .obj [("name", .str o.name), ("egressIPs", (o.get? "egressIPs").getD (.arr [])),
    ("netID", .int (((o.int64At? ["netid"]).or (o.int64At? ["netID"])).getD 0))]

def netNamespaces (c : Client σ) : Gather σ (List Record) := do
  match ← Gather.callUnlessMissing (c.list .netNamespaces none .all) with
  | none => return []
  | some page =>
      return [.of "config/netnamespaces" (.json (.arr (page.items.map netNamespaceJson)))]

def machineSets (c : Client σ) : Gather σ (List Record) :=
  eachResource c .machineSets fun o => "machinesets/" ++ o.namespaceOf ++ "/" ++ o.name

def machineConfigPools (c : Client σ) : Gather σ (List Record) :=
  eachResource c .machineConfigPools fun o => "config/machineconfigpools/" ++ o.name

def containerRuntimeConfigs (c : Client σ) : Gather σ (List Record) :=
  eachResource c .containerRuntimeConfigs fun o => "config/containerruntimeconfigs/" ++ o.name

def mutatingWebhooks (c : Client σ) : Gather σ (List Record) :=
  eachObject c .mutatingWebhookConfigurations fun o =>
    .of ("config/mutatingwebhookconfigurations/" ++ o.name) (.redacted .mutatingWebhook o)

def securityPolicies (c : Client σ) : Gather σ (List Record) := do
  match ← Gather.callUnlessMissing (c.list .podSecurityPolicies none .all) with
  | none => return []
  | some page =>
      return [.of "config/psp_names" (.json (.arr (page.items.map fun o => .str o.name)))]

end ClusterSurvey.Survey
