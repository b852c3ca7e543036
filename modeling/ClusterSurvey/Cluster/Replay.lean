import ClusterSurvey.Cluster.Snapshot

/-!
A client that answers list calls from a script, one answer after the other, whatever is asked for.
It knows no objects, logs or paths.
-/
namespace ClusterSurvey

/-- The answers that are left, and the calls that were made, the last one first. -/
structure Replay where
  answers : List (Except ClusterError ResourcePage)
  calls : List String

namespace Replay

def next (call : String) : StateM Replay (Except ClusterError ResourcePage) := fun s =>
  match s.answers with
  | answer :: rest => (answer, ⟨rest, call :: s.calls⟩)
  | [] => (.error (.decode "no more pages"), ⟨[], call :: s.calls⟩)

def client (answers : Nat) : Client Replay where
  pageBound := answers + 2
  list r ns o := next ("list " ++ r.path ns none ++ "?" ++ Snapshot.queryText o.query)
  get r _ name := return .error (.notFound (r.label ++ " " ++ name))
  logs ns pod _ := return .error (.notFound ("logs " ++ ns ++ "/" ++ pod))
  raw path _ := return .error (.notFound path)

end Replay

end ClusterSurvey
