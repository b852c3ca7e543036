import ClusterSurvey.Proofs.Bytes.Replacement
import ClusterSurvey.Proofs.Survey.Gathering
import ClusterSurvey.Survey.ContainerLogs

/-!
What is read of the logs of containers. They are read one after the other into the same buffer, and
nothing that an earlier one left there gets into a later one: the record of a log is told by the
answer to its own request alone.
-/
namespace ClusterSurvey.Survey

variable {σ τ : Type}

/-- The log of an earlier or the present run of a container, of which the front was read. -/
structure LogFront where
  previous : Bool
  pod : Json
  container : String
  front : Bytes

/-- The logs that are read: those of the earlier runs in pods that were restarted, and those of the
present ones. -/
def readTargets (pods : List Json) : List (Bool × Json × String) :=
  (logTargets pods true).map (true, ·) ++ (logTargets pods false).map (false, ·)

def wasRestarted (pod : Json) : Bool :=
  (pod.itemsAt ["status", "initContainerStatuses"]
      ++ pod.itemsAt ["status", "containerStatuses"]).any
    fun status => (status.int64At? ["restartCount"]).any (0 < ·)

def namesOf (kind : String) (pod : Json) : List String :=
  (pod.itemsAt ["spec", kind]).filterMap fun c => c.stringAt? ["name"]

theorem isRestarted_eq : isRestarted = wasRestarted := by
  have each : (fun status => decide (0 < restartCount status)) =
      fun status => (status.int64At? ["restartCount"]).any (0 < ·) := by
    funext status
    unfold restartCount
    cases status.int64At? ["restartCount"] <;> rfl
  funext pod
  exact congrArg _ each

/-- The request for a log that is read: the last lines of the container's run, and at most so many
bytes of them. -/
def askLog (c : Client σ) (size : Nat) (target : Bool × Json × String) :
    StateM σ (Except ClusterError ByteStream) :=
  c.logs target.2.1.namespaceOf target.2.1.name
    { container := target.2.2
      sinceSeconds := 0
      limitBytes := min size 9223372036854775807
      tailLines := 100
      previous := target.1 }

def logAnswers (c : Client σ) (size : Nat) (pods : List Json) (s : σ) :
    List (Except ClusterError ByteStream) :=
  (((readTargets pods).mapM (askLog c size)).run s).1

/-- The first `size` bytes of a log, if the request was answered and the stream did not break before
them. There are none in an empty log. -/
def frontOf? (size : Nat) : Except ClusterError ByteStream → Option Bytes
  | .error _ => none
  | .ok stream =>
    let data := stream.chunks.flatten
    if (stream.failure.isSome ∧ data.length < size) ∨ data.take size = [] then none
      else some (data.take size)

namespace LogFront

def record (l : LogFront) : Record :=
  .of ("config/pod/" ++ l.pod.namespaceOf ++ "/logs/" ++ l.pod.name ++ "/" ++ l.container ++ "_" ++
    (if l.previous then "previous" else "current") ++ ".log") (.raw (Utf8.rewritten l.front))

def target (l : LogFront) : Bool × Json × String := (l.previous, l.pod, l.container)

end LogFront

def logRecord? (size : Nat) (target : Bool × Json × String)
    (answer : Except ClusterError ByteStream) : Option Record :=
  (frontOf? size answer).map fun front => LogFront.record ⟨target.1, target.2.1, target.2.2, front⟩

/-- The records of logs by the answers to the requests for them. -/
def logRecords (size : Nat) (targets : List (Bool × Json × String))
    (answers : List (Except ClusterError ByteStream)) :
    List Record :=
  (List.zipWith (logRecord? size) targets answers).filterMap id

theorem logRecords_cons (size : Nat) (target : Bool × Json × String)
    (targets : List (Bool × Json × String)) (answer : Except ClusterError ByteStream)
    (answers : List (Except ClusterError ByteStream)) :
    logRecords size (target :: targets) (answer :: answers) =
      (logRecord? size target answer).toList ++ logRecords size targets answers := by
  unfold logRecords
  rw [List.zipWith_cons_cons]
  cases logRecord? size target answer <;> rfl

def targetName (target : Bool × Json × String) : String :=
  logName target.2.1.namespaceOf target.2.1.name target.2.2 target.1

theorem LogFront.record_eq (l : LogFront) :
    l.record = .of (targetName l.target) (.raw (Utf8.rewritten l.front)) := by
  cases earlier : l.previous with
  | true => simp [record, targetName, target, logName, earlier, String.append_assoc]
  | false => simp [record, targetName, target, logName, earlier, String.append_assoc]

theorem names_logRecords (size : Nat) (targets : List (Bool × Json × String))
    (answers : List (Except ClusterError ByteStream)) :
    ((logRecords size targets answers).map Record.name).Sublist (targets.map targetName) := by
  induction targets generalizing answers with
  | nil => exact List.nil_sublist _
  | cons target targets ih =>
    cases answers with
    | nil => exact List.nil_sublist _
    | cons answer answers =>
      rw [logRecords_cons, List.map_append, List.map_cons, ← List.singleton_append]
      refine List.Sublist.append ?_ (ih answers)
      unfold logRecord?
      cases frontOf? size answer with
      | none => exact List.nil_sublist _
      | some front =>
        rw [Option.map_some, LogFront.record_eq]
        exact List.Sublist.refl _

theorem logRecords_at {size place : Nat} {targets : List (Bool × Json × String)}
    {target : Bool × Json × String} {answers : List (Except ClusterError ByteStream)}
    {answer : Except ClusterError ByteStream} (read : targets[place]? = some target)
    (answered : answers[place]? = some answer) :
    logRecords size targets answers = logRecords size (targets.take place) (answers.take place) ++
      (logRecord? size target answer).toList ++
        logRecords size (targets.drop (place + 1)) (answers.drop (place + 1)) := by
  induction targets generalizing place answers with
  | nil => cases read
  | cons first targets ih =>
    cases answers with
    | nil => cases answered
    | cons _ answers =>
      rw [logRecords_cons]
      cases place with
      | zero =>
        cases read
        cases answered
        rfl
      | succ place =>
        rw [ih read answered, List.take_succ_cons, List.take_succ_cons, logRecords_cons,
          List.append_assoc, List.append_assoc, List.append_assoc, List.drop_succ_cons,
          List.drop_succ_cons]

namespace LogBuffer

theorem content_clear (b : LogBuffer) : b.clear.content = [] := rfl

theorem content_push (piece : Bytes) (b : LogBuffer) :
    content ⟨piece :: b.pieces⟩ = b.content ++ piece := by
  simp [content]

theorem content_readToEnd (failure : Option String) (b : LogBuffer) (left : Nat)
    (pieces : List Bytes) :
    (b.readToEnd failure left pieces).2.content = b.content ++ pieces.flatten.take left := by
  fun_induction readToEnd failure b left pieces with
  | case1 b pieces => simp
  | case2 b left => simp
  | case3 b left piece coming ih =>
      rw [ih, content_push, List.flatten_cons, List.take_append, List.append_assoc]

theorem broken_readToEnd (failure : Option String) (b : LogBuffer) (left : Nat)
    (pieces : List Bytes) :
    (b.readToEnd failure left pieces).1 =
    (failure.isSome && decide (pieces.flatten.length < left)) := by
  fun_induction readToEnd failure b left pieces with
  | case1 b pieces => simp
  | case2 b left => simp
  | case3 b left piece coming ih =>
    have short : coming.flatten.length < left + 1 - piece.length ↔
        (piece :: coming).flatten.length < left + 1 := by
      rw [List.flatten_cons, List.length_append]
      omega
    rw [ih, decide_eq_decide.mpr short]

end LogBuffer

theorem LogReading.add_eq (r : LogReading) (size : Nat) (previous : Bool) (pod : Json)
    (container : String) (stream : ByteStream) :
    ∃ buffer, r.add (logName pod.namespaceOf pod.name container previous) size stream =
      ⟨(logRecord? size (previous, pod, container) (.ok stream)).toList ++ r.records, buffer⟩ := by
  have broken := r.buffer.clear.broken_readToEnd stream.failure size stream.chunks
  have content := r.buffer.clear.content_readToEnd stream.failure size stream.chunks
  rw [LogBuffer.content_clear, List.nil_append] at content
  refine ⟨(r.buffer.clear.readToEnd stream.failure size stream.chunks).2, ?_⟩
  simp only [add, logRecord?, frontOf?, broken, content, LogFront.record_eq, Bool.or_eq_true,
    Bool.and_eq_true, decide_eq_true_eq, List.isEmpty_iff]
  split <;> rfl

section Run

variable {c : Client σ} {size : Nat} {target : Bool × Json × String} {s t : σ}

theorem containerLog_run {answer : Except ClusterError ByteStream}
    (asked : (askLog c size target).run s = (answer, t)) {cancelled : Bool}
    (goes : cancelled = true → ∃ e, answer = .error e) (r : LogReading) :
    ∃ buffer, (containerLog c size cancelled target.1 r target.2.1 target.2.2).run.run s =
      (.ok ⟨(logRecord? size target answer).toList ++ r.records, buffer⟩, t) := by
  have called :
      (c.logs target.2.1.namespaceOf target.2.1.name (tailOptions target.2.2 size target.1)).run s =
      (answer, t) := asked
  unfold containerLog
  rw [Gather.run_lift_bind, called]
  cases answer with
  | error e => exact ⟨r.buffer, rfl⟩
  | ok stream =>
    cases cancelled with
    | true =>
      obtain ⟨_, failed⟩ := goes rfl
      cases failed
    | false =>
      obtain ⟨buffer, added⟩ := r.add_eq size target.1 target.2.1 target.2.2 stream
      exact ⟨buffer, congrArg (fun read => (Except.ok read, t)) added⟩

theorem containerLog_cancelled {stream : ByteStream}
    (asked : (askLog c size target).run s = (.ok stream, t)) (r : LogReading) :
    (containerLog c size true target.1 r target.2.1 target.2.2).run.run s =
    (.error .cancelled, t) := by
  have called :
      (c.logs target.2.1.namespaceOf target.2.1.name (tailOptions target.2.2 size target.1)).run s =
      (.ok stream, t) := asked
  unfold containerLog
  rw [Gather.run_lift_bind, called]
  rfl

theorem containerLogs_eq (c : Client σ) (pods : List Json) (room : size < 2 ^ 63)
    (cancelled : Bool) :
    containerLogs c pods size cancelled = do
      let read ← (readTargets pods).foldlM
        (fun r target => containerLog c size cancelled target.1 r target.2.1 target.2.2) ⟨[], ⟨[]⟩⟩
      return read.records.reverse := by
  have buffer : LogBuffer.withCapacity size = .ok ⟨[]⟩ := if_pos (Nat.le_of_lt_succ room)
  simp only [containerLogs, buffer, Gather.ofExcept, pure_bind, readTargets, List.foldlM_append,
    List.foldlM_map, List.foldlM_cons, List.foldlM_nil, bind_pure]

theorem containerLogs_overflow (c : Client σ) (pods : List Json) (large : 2 ^ 63 ≤ size)
    (cancelled : Bool) :
    containerLogs c pods size cancelled = throw (.panic "capacity overflow") := by
  have buffer : LogBuffer.withCapacity size = .error (.panic "capacity overflow") :=
    if_neg (Nat.not_le.mpr large)
  rw [containerLogs, buffer]
  rfl

theorem mapM_askLog_cons {answer : Except ClusterError ByteStream}
    (asked : (askLog c size target).run s = (answer, t)) (targets : List (Bool × Json × String)) :
    ((target :: targets).mapM (askLog c size)).run s =
      (answer :: ((targets.mapM (askLog c size)).run t).1,
        ((targets.mapM (askLog c size)).run t).2) := by
  rw [List.mapM_cons, Gather.run_state_bind asked]
  rfl

theorem foldlM_containerLog (c : Client σ) (size : Nat) (targets : List (Bool × Json × String))
    (r : LogReading) (s : σ) :
    let asked := (targets.mapM (askLog c size)).run s
    ∃ buffer, (targets.foldlM
        (fun r target => containerLog c size false target.1 r target.2.1 target.2.2) r).run.run s =
      (.ok ⟨(logRecords size targets asked.1).reverse ++ r.records, buffer⟩, asked.2) := by
  induction targets generalizing r s with
  | nil => exact ⟨r.buffer, rfl⟩
  | cons target targets ih =>
    cases asked : (askLog c size target).run s with
    | mk answer t =>
      obtain ⟨buffer, first⟩ :=
        containerLog_run asked (fun stopped => (Bool.false_ne_true stopped).elim) r
      obtain ⟨buffer', rest⟩ := ih ⟨(logRecord? size target answer).toList ++ r.records, buffer⟩ t
      refine ⟨buffer', ?_⟩
      rw [List.foldlM_cons, Gather.run_bind_of_ok first, rest, mapM_askLog_cons asked,
        logRecords_cons]
      cases logRecord? size target answer <;> simp

theorem length_logAnswers (c : Client σ) (size : Nat) (pods : List Json) (s : σ) :
    (logAnswers c size pods s).length = (readTargets pods).length := by
  unfold logAnswers
  induction readTargets pods generalizing s with
  | nil => rfl
  | cons target targets ih =>
    cases asked : (askLog c size target).run s with
    | mk answer t =>
      rw [mapM_askLog_cons asked, List.length_cons, List.length_cons, ih t]

theorem containerLogs_run (c : Client σ) (pods : List Json) (room : size < 2 ^ 63) (s : σ) :
    (containerLogs c pods size false).run.run s =
      (.ok (logRecords size (readTargets pods) (logAnswers c size pods s)),
        (((readTargets pods).mapM (askLog c size)).run s).2) := by
  obtain ⟨buffer, run⟩ := foldlM_containerLog c size (readTargets pods) ⟨[], ⟨[]⟩⟩ s
  rw [List.append_nil] at run
  rw [containerLogs_eq c pods room, Gather.run_bind_of_ok run, logAnswers]
  change (Except.ok (List.reverse (List.reverse _)), _) = _
  rw [List.reverse_reverse]

end Run

/-- Where there can be a buffer of the size, there is one record for each log whose request was
answered and whose first bytes could be read and are some, in the order in which the logs are read:
those of earlier runs, in pods that were restarted, before those of the present ones, pod by pod,
and in each of them those of the containers that initialise it first. What becomes of one request
changes no record but its own. -/
theorem logs_told_by_answers (c : Client σ) (pods : List Json) {size : Nat} (room : size < 2 ^ 63)
    (s : σ) :
    readTargets pods =
      ((pods.filter wasRestarted).flatMap fun pod =>
        (namesOf "initContainers" pod ++ namesOf "containers" pod).map (true, pod, ·)) ++
      (pods.flatMap fun pod =>
        (namesOf "initContainers" pod ++ namesOf "containers" pod).map (false, pod, ·)) ∧
    (logAnswers c size pods s).length = (readTargets pods).length ∧
    (containerLogs c pods size false).run.run s =
      (.ok (logRecords size (readTargets pods) (logAnswers c size pods s)),
        (((readTargets pods).mapM (askLog c size)).run s).2) ∧
    ∀ {τ : Type} (d : Client τ) (u : τ) (place : Nat) (target : Bool × Json × String)
      (answer answer' : Except ClusterError ByteStream), (readTargets pods)[place]? = some target →
      (logAnswers c size pods s)[place]? = some answer →
      (logAnswers d size pods u)[place]? = some answer' →
      (∀ other, other ≠ place →
        (logAnswers d size pods u)[other]? = (logAnswers c size pods s)[other]?) →
      ∃ before after : List Record,
        ((containerLogs c pods size false).run.run s).1 =
          .ok (before ++ (logRecord? size target answer).toList ++ after) ∧
        ((containerLogs d pods size false).run.run u).1 =
          .ok (before ++ (logRecord? size target answer').toList ++ after) := by
  refine ⟨?_, length_logAnswers c size pods s, containerLogs_run c pods room s, ?_⟩
  · have names : ∀ pod, containerNames pod = namesOf "initContainers" pod
        ++ namesOf "containers" pod :=
      fun pod => List.filterMap_append
    simp only [readTargets, logTargets, List.map_flatMap, List.map_map, names, isRestarted_eq]
    rfl
  · intro τ d u place target answer answer' read answered answered' others
    have earlier : (logAnswers d size pods u).take place =
        (logAnswers c size pods s).take place := by
      refine List.ext_getElem? fun i => ?_
      rw [List.getElem?_take, List.getElem?_take]
      split
      · exact others i (by omega)
      · rfl
    have later : (logAnswers d size pods u).drop (place + 1) =
        (logAnswers c size pods s).drop (place + 1) := by
      refine List.ext_getElem? fun i => ?_
      rw [List.getElem?_drop, List.getElem?_drop]
      exact others _ (by omega)
    have here : logRecords size _ _ = _ := logRecords_at read answered
    have there : logRecords size _ _ = _ := logRecords_at read answered'
    rw [earlier, later] at there
    exact ⟨_, _, by rw [containerLogs_run c pods room, here],
      by rw [containerLogs_run d pods room, there]⟩

def answering (answer : LogOptions → Except ClusterError ByteStream) : Client Unit where
  pageBound := 1
  list _ _ _ := return .ok ⟨[], none⟩
  get _ _ name := return .error (.notFound name)
  logs _ _ o := return answer o
  raw path _ := return .error (.notFound path)

/-- A pod of two containers, of which one was restarted. -/
def twoContainers : Json :=
  .obj [("metadata", .obj [("name", .str "web-0"), ("namespace", .str "shop")]),
    ("spec",
        .obj [("containers", .arr [.obj [("name", .str "app")], .obj [("name", .str "proxy")]])]),
    ("status", .obj [("containerStatuses", .arr [.obj [("restartCount", .int 1)]])])]

/-- The earlier run of one container has a log of which only a part can be read, and that of the
other one a log in two pieces that is longer than the buffer. -/
def mixedAnswers (ofApp : Except ClusterError ByteStream) (o : LogOptions) :
    Except ClusterError ByteStream :=
  match o.container, o.previous with
  | "app", true => .ok ⟨[Bytes.ofString "star"], some "connection reset"⟩
  | "app", false => ofApp
  | _, true => .ok ⟨[Bytes.ofString "pani", Bytes.ofString "c: boom"], none⟩
  | _, false => .ok ⟨[Bytes.ofString "ready"], none⟩

/-- A log that could not be asked for is missing, and those in front of it and behind it are as they
are when it can be read. -/
theorem missingLog_others_kept :
    let c := answering (mixedAnswers (.error (.notFound "app")))
    let d := answering (mixedAnswers (.ok ⟨[Bytes.ofString "ok"], none⟩))
    let others := [
      Record.of "config/pod/shop/logs/web-0/proxy_previous.log" (.raw (Bytes.ofString "panic: b")),
      Record.of "config/pod/shop/logs/web-0/proxy_current.log" (.raw (Bytes.ofString "ready"))]
    let app := Record.of "config/pod/shop/logs/web-0/app_current.log" (.raw (Bytes.ofString "ok"))
    8 < 2 ^ 63 ∧ (readTargets [twoContainers])[2]? = some (false, twoContainers, "app") ∧
      (logAnswers c 8 [twoContainers] ())[2]? = some (.error (.notFound "app")) ∧
      (logAnswers d 8 [twoContainers] ())[2]? = some (.ok ⟨[Bytes.ofString "ok"], none⟩) ∧
      (∀ other, other ≠ 2 →
        (logAnswers d 8 [twoContainers] ())[other]? = (logAnswers c 8 [twoContainers] ())[other]?) ∧
      ((containerLogs c [twoContainers] 8 false).run.run ()).1 = .ok others ∧
      ∃ before after, before ++ after = others ∧
        ((containerLogs d [twoContainers] 8 false).run.run ()).1 =
          .ok (before ++ [app] ++ after) := by
  intro c d others app
  have same : ∀ other, other ≠ 2 →
      (logAnswers d 8 [twoContainers] ())[other]? =
        (logAnswers c 8 [twoContainers] ())[other]? := by
    intro other different
    match other with
    | 0 | 1 | 3 => rfl
    | 2 => exact absurd rfl different
    | n + 4 => rfl
  obtain ⟨_, _, told, each⟩ := logs_told_by_answers c [twoContainers] (by decide : 8 < 2 ^ 63) ()
  have whole : ((containerLogs c [twoContainers] 8 false).run.run ()).1 = .ok others :=
    congrArg Prod.fst told
  obtain ⟨before, after, without, within⟩ := each d () 2 _ _ _ rfl rfl rfl same
  have parts := Except.ok.inj (without.symm.trans whole)
  refine ⟨by decide, rfl, rfl, rfl, same, whole, before, after, ?_, within⟩
  rwa [← List.append_nil before]

end ClusterSurvey.Survey
