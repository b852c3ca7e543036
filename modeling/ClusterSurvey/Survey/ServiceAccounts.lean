import ClusterSurvey.Survey.Output

/-!
A summary of the service accounts of the default namespaces and those of the platform.
-/
namespace ClusterSurvey.Survey

def maxServiceAccounts : Nat := 1000

def defaultNamespaces : List String := ["default", "kube-system", "kube-public"]

/-- The accounts that were found: how many, and those that are looked at. -/
structure FoundAccounts where
  total : Nat
  kept : List Json

def FoundAccounts.add (a : FoundAccounts) (accounts : List Json) : FoundAccounts :=
  ⟨a.total + accounts.length, a.kept ++ accounts.take (maxServiceAccounts - a.kept.length)⟩

def accountJson (account : Json) : Json :=
  .obj [("name", .str account.name), ("secrets", .int (account.itemsAt ["secrets"]).length)]

def FoundAccounts.toJson (a : FoundAccounts) : Json :=
  .obj [("serviceAccounts",
    .obj [("TOTAL_COUNT", .int a.total),
      ("namespaces", Json.object
          (a.kept.map fun account => (account.namespaceOf, accountJson account)))])]

def serviceAccounts {σ : Type} (c : Client σ) : Gather σ (List Record) := do
  match ← Gather.callUnlessMissing (platformNamespaces c) with
  | none => return []
  | some platform =>
    let options := { ListOptions.all with limit := some maxServiceAccounts }
    let accounts ← (defaultNamespaces ++ platform).foldlM (fun (a : FoundAccounts) ns => do
      match ← (c.list .serviceAccounts (some ns) options : StateM σ
        (Except ClusterError ResourcePage)) with
      | .ok page => return a.add page.items
      | .error _ => return a) (⟨0, []⟩ : FoundAccounts)
    return [.of "config/serviceaccounts" (.json accounts.toJson)]

end ClusterSurvey.Survey
