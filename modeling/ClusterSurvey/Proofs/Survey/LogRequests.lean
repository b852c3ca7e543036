import ClusterSurvey.Proofs.Survey.Exchanges
import ClusterSurvey.Proofs.Survey.LogReading

/-!
Which logs are asked for. Lists of objects are read without asking for a log; reading the logs of
containers asks once for each log that is read, in their order, with its share of the room.
-/
namespace ClusterSurvey.Survey

variable {σ : Type}

theorem listAll_lists (c : Client σ) (r : ApiResource) (ns : Option String) :
    Lists (listAll c.heard r ns) (listAll c r ns) := by
  unfold listAll
  refine .bind (.collectWithin c _ _ _) fun answer => ?_
  cases answer <;> exact .pure _

def logRequest (size : Nat) (target : Bool × Json × String) : LogRequest :=
  ⟨target.2.1.namespaceOf, target.2.1.name, tailOptions target.2.2 size target.1⟩

theorem askLog_heard (c : Client σ) (size : Nat) (target : Bool × Json × String) :
    Heard (askLog c.heard size target) (askLog c size target) fun exchanges _ =>
      exchanges.filterMap Exchange.log? = [logRequest size target] := by
  refine (Heard.logs c _ _ _).imp ?_
  rintro _ _ rfl
  rfl

theorem containerLogs_heard (c : Client σ) (pods : List Json) {size : Nat} (room : size < 2 ^ 63) :
    Heard (containerLogs c.heard pods size false).run (containerLogs c pods size false).run
      fun exchanges _ =>
        exchanges.filterMap Exchange.log? = (readTargets pods).map (logRequest size) := by
  intro s
  obtain ⟨exchanges, asked, same⟩ := Heard.mapM (askLog_heard c size) (readTargets pods) s
  refine ⟨exchanges, asked, fun noted => ?_⟩
  rw [containerLogs_run c.heard pods room, containerLogs_run c pods room, logAnswers, same]
  rfl

end ClusterSurvey.Survey
