import ClusterSurvey.Survey.Output

/-!
The health of pods. A pod is unhealthy when it has been pending for too long, or when one of its
containers failed or was restarted.
-/
namespace ClusterSurvey.Survey

def containerStatuses (pod : Json) : List Json :=
  pod.itemsAt ["status", "initContainerStatuses"] ++ pod.itemsAt ["status", "containerStatuses"]

def exitedWithError (state : Json) : Bool := (state.int64At? ["terminated", "exitCode"]).any (· ≠ 0)

def restartCount (status : Json) : Int := (status.int64At? ["restartCount"]).getD 0

def pendingGrace : Int := 120000000000

def isStuck (pod : Json) (now : Instant) : Bool :=
  pod.stringAt? ["status", "phase"] == some "Pending"
    && (pod.timeAt? ["metadata", "creationTimestamp"]).any fun created => pendingGrace <
      now.since created

def isHealthyContainer (status : Json) : Bool :=
  !(status.get? "lastState").any exitedWithError && !(status.get? "state").any exitedWithError
    && restartCount status == 0

def isHealthyPod (pod : Json) (now : Instant) : Bool :=
  !isStuck pod now && (containerStatuses pod).all isHealthyContainer

def isCrashLooping (status : Json) : Bool :=
  let last := status.get? "lastState"
  0 < restartCount status &&
    (last.any exitedWithError || last.any fun s => (s.get? "waiting").isSome)

def hasCrashLoop (pod : Json) : Bool := (containerStatuses pod).any isCrashLooping

def isRestarted (pod : Json) : Bool := (containerStatuses pod).any fun s => 0 < restartCount s

def containerNames (pod : Json) : List String :=
  (pod.itemsAt ["spec", "initContainers"] ++ pod.itemsAt ["spec", "containers"]).filterMap
    fun c => c.stringAt? ["name"]

def podRecord (pod : Json) : Record :=
  .of ("config/pod/" ++ pod.namespaceOf ++ "/" ++ pod.name) (.resource pod)

end ClusterSurvey.Survey
