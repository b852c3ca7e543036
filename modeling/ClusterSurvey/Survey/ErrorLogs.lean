import ClusterSurvey.Log.Collect

/-!
Known messages of errors in the logs of the platform's components of the last day.
-/
namespace ClusterSurvey.Survey

variable {σ : Type}

def logsSince : Int := 86400

def logsLimit : Int := 65536

def ofLastDay (f : Log.Filter) : Log.Filter :=
  { f with sinceSeconds := logsSince, limitBytes := logsLimit }

def errorLogs (c : Client σ) (s : Log.Selection) (f : Log.Filter) (cancelled : Bool) :
    StateM σ Output := do
  match ← (Log.collect c cancelled s (ofLastDay f) Log.errorsLogName).run with
  | .ok (records, warnings) => return ⟨records, warnings⟩
  | .error e => return ⟨[], [e]⟩

def apiServerOperatorLogs (c : Client σ) (cancelled : Bool) : StateM σ Output :=
  errorLogs c (.of "openshift-apiserver-operator")
    (.substrings
      ["the server has received too many requests and has asked us",
        "because serving request timed out and response had been started"]) cancelled

def networkLogs (c : Client σ) (cancelled : Bool) : StateM σ Output :=
  errorLogs c { Log.Selection.of "openshift-sdn" with labelSelector := some "app=sdn" }
    (.substrings
      ["Got OnEndpointsUpdate for unknown Endpoints", "Got OnEndpointsDelete for unknown Endpoints",
        "Unable to update proxy firewall for policy",
        "Failed to update proxy firewall for policy"]) cancelled

def networkControllerLogs (c : Client σ) (cancelled : Bool) : StateM σ Output :=
  errorLogs c { Log.Selection.of "openshift-sdn" with labelSelector := some "app=sdn-controller" }
    (.regex
      ["Node.+is not Ready", "Node.+may be offline\\.\\.\\. retrying", "Node.+is offline",
        "Node.+is back online"]) cancelled

def authenticationLogs (c : Client σ) (cancelled : Bool) : StateM σ Output :=
  errorLogs c { Log.Selection.of "openshift-authentication" with
    labelSelector := some "app=oauth-openshift" }
    (.substrings ["AuthenticationError: invalid resource name"]) cancelled

end ClusterSurvey.Survey
