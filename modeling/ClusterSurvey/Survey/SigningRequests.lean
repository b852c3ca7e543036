import ClusterSurvey.Redaction.SigningRequest
import ClusterSurvey.Survey.Output

/-!
Certificate signing requests that are pending, or whose certificates are not verified or do not
count at present.
-/
namespace ClusterSurvey.Survey

def maxSigningRequests : Nat := 5000

def signingRecord (f : Redaction.SigningFeatures) : Record :=
  .of ("config/certificatesigningrequests/" ++ f.metadata.stringAt ["name"]) (.json f.toJson)

def signingRequests {σ : Type} (c : Client σ) (now : Instant) : Gather σ (List Record) := do
  let pager :=
    ((Pager.of .certificateSigningRequests).withLimit maxSigningRequests).withCap maxSigningRequests
  match ← Gather.callUnlessMissing (pager.collect c) with
  | none => return []
  | some paged =>
    return ((paged.items.map Redaction.signingFeatures).filter
      (·.worthRecording now)).map signingRecord

end ClusterSurvey.Survey
