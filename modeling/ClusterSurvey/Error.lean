/-!
What can go wrong while a cluster is surveyed. Failures of the cluster's interface are one cause of
a failed gathering; which of them a caller may try again is told by the class of its status.
-/
namespace ClusterSurvey

/-- A failed request to the cluster. A status of 0 stands for a failure without an answer. -/
inductive ClusterError where
  | notFound (what : String)
  | transient (status : Nat) (text : String)
  | permanent (status : Nat) (text : String)
  | decode (text : String)
  deriving DecidableEq, Repr

namespace ClusterError

def message : ClusterError → String
  | .notFound what => what ++ " not found"
  | .transient status text => s!"transient cluster error ({status}): " ++ text
  | .permanent status text => s!"cluster request failed ({status}): " ++ text
  | .decode text => "unable to decode cluster response: " ++ text

/-- Whether the object that was asked for does not exist. -/
def isNotFound : ClusterError → Bool
  | .notFound _ => true
  | _ => false

def ofStatus (status : Nat) (what text : String) : ClusterError :=
  if status = 404 then .notFound what
  else if status = 429 ∨ (500 ≤ status ∧ status ≤ 599) then .transient status text
  else .permanent status text

end ClusterError

inductive GatherError where
  | fieldNotFound (path : String)
  | marshal (text : String)
  | anonymization (text : String)
  | recorder (text : String)
  | io (text : String)
  | cancelled
  | unknownTask (name : String)
  | invalidFilter (text : String)
  | panic (text : String)
  | cluster (cause : ClusterError)
  | warning (text : String)
  | aggregated (text : String)
  deriving DecidableEq, Repr

namespace GatherError

def message : GatherError → String
  | .fieldNotFound path => "field not found: " ++ path
  | .marshal text => "unable to marshal record: " ++ text
  | .anonymization text => "anonymization failed: " ++ text
  | .recorder text => "recorder error: " ++ text
  | .io text => text
  | .cancelled => "context cancelled"
  | .unknownTask name => "unknown gathering function: " ++ name
  | .invalidFilter text => "invalid log filter: " ++ text
  | .panic text => "panic: " ++ text
  | .cluster cause => cause.message
  | .warning text => text
  | .aggregated text => text

def isWarning : GatherError → Bool
  | .warning _ => true
  | _ => false

end GatherError

/-- Each message once, at its first place; those of `seen` are left out. -/
def uniqueFrom : (seen : List String) → List String → List String
  | _, [] => []
  | seen, m :: rest => if m ∈ seen then uniqueFrom seen rest else m :: uniqueFrom (m :: seen) rest

def uniqueMessages (messages : List String) : List String := uniqueFrom [] messages

end ClusterSurvey
