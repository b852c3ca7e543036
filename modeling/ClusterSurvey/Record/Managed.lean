import ClusterSurvey.Json.Path

/-!
Bookkeeping that the cluster keeps in the metadata of a resource. It is left out of every record.
-/
namespace ClusterSurvey

def lastAppliedAnnotation : String := "kubectl.kubernetes.io/last-applied-configuration"

def stripManaged (resource : Json) : Json :=
  resource.modifyAt ["metadata"] fun metadata =>
    (metadata.removeMember "managedFields").modifyAt ["annotations"]
      (Json.removeMember lastAppliedAnnotation)

end ClusterSurvey
