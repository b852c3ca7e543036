import ClusterSurvey.Proofs.Recording.Overwriting
import ClusterSurvey.Proofs.Survey.LogReading
import Mathlib.Algebra.Order.BigOperators.Group.List
import Mathlib.Data.List.Flatten

/-!
What the logs of containers take in an archive. Each log may use its share of the room, so as many
logs as there are containers fit. There are more of them where pods were restarted, whose containers
have two logs each, and a log takes more room than it uses of its share where it is not well-formed.
-/
namespace ClusterSurvey.Survey
open Recording (totalBytes)

variable {σ : Type}

namespace LogFront

theorem bytes_record (l : LogFront) : l.record.bytes = Utf8.rewritten l.front := rfl

/-- Whether the front is what a client hands out of the log, if it is asked for `size` bytes. -/
def Read (c : Client σ) (size : Nat) (l : LogFront) : Prop :=
  l.front ≠ [] ∧ ∃ s stream,
    ((c.logs l.pod.namespaceOf l.pod.name (tailOptions l.container size l.previous)).run s).1 =
    .ok stream ∧ l.front = stream.chunks.flatten.take size

theorem Read.short {c : Client σ} {size : Nat} {l : LogFront} (read : l.Read c size) :
    l.front.length ≤ size := by
  obtain ⟨_, _, _, _, front⟩ := read
  rw [front]
  exact List.length_take_le _ _

/-- The bytes of fronts of logs, and the ill-formed parts in them. -/
def used (logs : List LogFront) : Nat := (logs.map fun l => l.front.length).sum

def illFormed (logs : List LogFront) : Nat := (logs.map fun l => Utf8.illFormed l.front).sum

theorem totalBytes_le (logs : List LogFront) :
    totalBytes (logs.map record) ≤ used logs + 2 * illFormed logs := by
  induction logs with
  | nil => exact Nat.le_refl 0
  | cons l rest ih =>
    have first := Utf8.length_rewritten_le l.front
    simp only [totalBytes, used, illFormed, List.map_cons, List.sum_cons, bytes_record] at ih ⊢
    omega

theorem illFormed_le_used (logs : List LogFront) : illFormed logs ≤ used logs := by
  induction logs with
  | nil => exact Nat.le_refl 0
  | cons l rest ih =>
    have first := Utf8.illFormed_le l.front
    simp only [used, illFormed, List.map_cons, List.sum_cons] at ih ⊢
    omega

theorem used_le {size : Nat} {logs : List LogFront} (short : ∀ l ∈ logs, l.front.length ≤ size) :
    used logs ≤ logs.length * size := by
  have bound :=
    List.sum_le_card_nsmul (logs.map fun l => l.front.length) size (List.forall_mem_map.mpr short)
  rw [List.length_map] at bound
  exact bound

end LogFront

theorem logBufferSize_eq {containers size : Nat} (share : logBufferSize containers = some size) :
    0 < containers ∧ size = Settings.maxLogSize / containers := by
  unfold logBufferSize at share
  split at share
  · cases share
  · rename_i some
    have whole : Settings.maxLogSize * compressionRatio / containers / 2 =
        Settings.maxLogSize / containers := by
      rw [Nat.div_div_eq_div_mul, Nat.mul_comm containers, Nat.mul_comm Settings.maxLogSize]
      exact Nat.mul_div_mul_left _ _ Nat.two_pos
    simp only [whole] at share
    split at share
    · cases share
      exact ⟨Nat.pos_of_ne_zero some, rfl⟩
    · cases share

theorem shares_fit {containers size : Nat} (share : logBufferSize containers = some size) :
    containers * size ≤ Settings.maxLogSize := by
  obtain ⟨_, rfl⟩ := logBufferSize_eq share
  exact Nat.mul_div_le _ _

theorem share_lt {containers size : Nat} (share : logBufferSize containers = some size) :
    size < 2 ^ 63 := by
  obtain ⟨_, rfl⟩ := logBufferSize_eq share
  exact Nat.lt_of_le_of_lt (Nat.div_le_self _ _) (by decide)

theorem length_logTargets (pods : List Json) :
    (logTargets pods false).length = (pods.flatMap containerNames).length := by
  simp [logTargets, List.length_flatMap]

theorem length_logTargets_previous (pods : List Json) :
    (logTargets pods true).length ≤ (logTargets pods false).length := by
  have part : (pods.filter isRestarted).Sublist pods := List.filter_sublist
  exact (part.flatMap _).length_le

theorem logTargets_of_fresh {pods : List Json} (fresh : ∀ pod ∈ pods, isRestarted pod = false) :
    logTargets pods true = [] := by
  have none : pods.filter isRestarted = [] := by
    simpa using fresh
  rw [logTargets, if_pos rfl, none, List.flatMap_nil]

section Gather

variable {c : Client σ} {size : Nat} {cancelled : Bool}

theorem frontOf_eq {stream : ByteStream} {front : Bytes}
    (read : frontOf? size (.ok stream) = some front) :
    front ≠ [] ∧ front = stream.chunks.flatten.take size := by
  simp only [frontOf?] at read
  split at read
  · cases read
  · rename_i some
    cases read
    exact ⟨fun nothing => some (Or.inr nothing), rfl⟩

theorem containerLog_gives {target : Bool × Json × String} {r r' : LogReading}
    (given : (containerLog c size cancelled target.1 r target.2.1 target.2.2).Gives r') :
    r'.records = r.records ∨
      ∃ l : LogFront, l.target = target ∧ l.Read c size ∧ r'.records = l.record :: r.records := by
  obtain ⟨s, t, run⟩ := given
  cases asked : (askLog c size target).run s with
  | mk answer u =>
    by_cases goes : cancelled = true → ∃ e, answer = .error e
    · obtain ⟨buffer, told⟩ := containerLog_run asked goes r
      cases told.symm.trans run
      cases front : frontOf? size answer with
      | none => exact Or.inl (by rw [logRecord?, front]; rfl)
      | some front' =>
        cases answer with
        | error e => cases front
        | ok stream =>
          obtain ⟨some, same⟩ := frontOf_eq front
          exact Or.inr ⟨⟨target.1, target.2.1, target.2.2, front'⟩, rfl,
            ⟨some, s, stream, congrArg Prod.fst asked, same⟩, by rw [logRecord?, front]; rfl⟩
    · obtain ⟨rfl, served⟩ := Classical.not_imp.mp goes
      cases answer with
      | error e => exact (served ⟨e, rfl⟩).elim
      | ok stream => cases (containerLog_cancelled asked r).symm.trans run

theorem foldlM_containerLog_gives {targets : List (Bool × Json × String)} {r r' : LogReading}
    (given : (targets.foldlM
      (fun r target => containerLog c size cancelled target.1 r target.2.1 target.2.2) r).Gives
        r') :
    ∃ logs : List LogFront, r'.records = (logs.map LogFront.record).reverse ++ r.records ∧
      (logs.map LogFront.target).Sublist targets ∧ ∀ l ∈ logs, l.Read c size := by
  induction targets generalizing r with
  | nil =>
    rw [List.foldlM_nil] at given
    rw [Gather.gives_pure given]
    exact ⟨[], rfl, List.Sublist.refl _, List.forall_mem_nil _⟩
  | cons target targets ih =>
    rw [List.foldlM_cons] at given
    obtain ⟨next, first, rest⟩ := Gather.gives_bind given
    obtain ⟨logs, same, order, read⟩ := ih rest
    rcases containerLog_gives first with kept | ⟨l, target, front, added⟩
    · exact ⟨logs, kept ▸ same, order.cons _, read⟩
    · refine ⟨l :: logs, ?_, ?_, List.forall_mem_cons.mpr ⟨front, read⟩⟩
      · rw [same, added, List.map_cons, List.reverse_cons, List.append_assoc]
        rfl
      · rw [List.map_cons, target]
        exact order.cons_cons _

theorem containerLogs_gives {pods : List Json} {records : List Record}
    (given : (containerLogs c pods size cancelled).Gives records) :
    ∃ logs : List LogFront, records = logs.map LogFront.record ∧
      (logs.map LogFront.target).Sublist (readTargets pods) ∧ ∀ l ∈ logs, l.Read c size := by
  have room : size < 2 ^ 63 := by
    by_contra large
    rw [containerLogs_overflow c pods (Nat.le_of_not_lt large)] at given
    exact Gather.gives_throw given
  rw [containerLogs_eq c pods room] at given
  obtain ⟨read, folded, rest⟩ := Gather.gives_bind given
  obtain ⟨logs, same, order, fronts⟩ := foldlM_containerLog_gives folded
  refine ⟨logs, ?_, order, fronts⟩
  rw [Gather.gives_pure rest, same, List.append_nil, List.reverse_reverse]

theorem containerLogs_answers (c : Client σ) (pods : List Json) (room : size < 2 ^ 63) :
    (containerLogs c pods size false).Answers := fun s => ⟨_, _, containerLogs_run c pods room s⟩

end Gather

namespace LogFront

theorem readable_records (logs : List LogFront) : Recording.Readable (logs.map record) := by
  intro r member
  obtain ⟨l, _, rfl⟩ := List.mem_map.mp member
  exact ⟨_, rfl⟩

theorem ordinary_records (logs : List LogFront) :
    ∀ r ∈ logs.map record, r.name ≠ Recording.Buffer.runRecordName := by
  intro r member same
  obtain ⟨l, _, rfl⟩ := List.mem_map.mp member
  have first := congrArg (fun name => name.toList.head?) same
  simp [record, Record.of, Recording.Buffer.runRecordName] at first

theorem taken_iff {logs : List LogFront}
    (apart : ((logs.map record).map Record.fileName).Nodup) (now : Instant) {r : Recording.Recorder}
    (empty : r.buffer = .empty) :
    (∀ answer ∈ (r.recordAll now (logs.map record)).1, ∃ warnings, answer = .ok warnings) ↔
      totalBytes (logs.map record) ≤ r.bounds.archive := by
  constructor
  · intro taken
    have room :=
      Recording.Recorder.room_of_recordAll now (readable_records logs) (ordinary_records logs) apart
      (fun _ _ => by rw [empty]; rfl) taken (by rw [empty]; exact Nat.zero_le _)
    rw [empty] at room
    exact Nat.le_trans (Nat.le_add_left _ _) room
  · exact fun room => (Recording.Recorder.recordAll_empty now empty (readable_records logs) room).1

end LogFront

/-- The logs use at most the room of an archive, and once more the shares of those of earlier runs;
what is recorded is larger than that by two bytes at most for each ill-formed part. So all of it
fits where no pod was restarted and nothing is ill-formed, and six times the room is enough in any
case. A recorder that has the room takes all logs. -/
theorem logs_within_shares (c : Client σ) {pods : List Json} {size : Nat}
    (share : logBufferSize (pods.flatMap containerNames).length = some size) :
    (∀ s, ∃ records t, (containerLogs c pods size false).run.run s = (.ok records, t)) ∧
    ∀ cancelled s records t, (containerLogs c pods size cancelled).run.run s = (.ok records, t) →
      ∃ logs : List LogFront, records = logs.map LogFront.record ∧
        (logs.map LogFront.target).Sublist (readTargets pods) ∧ (∀ l ∈ logs, l.Read c size) ∧
        LogFront.used logs ≤ Settings.maxLogSize + (logTargets pods true).length * size ∧
        totalBytes records ≤ LogFront.used logs + 2 * LogFront.illFormed logs ∧
        totalBytes records ≤ 6 * Settings.maxLogSize ∧
        ((∀ pod ∈ pods, isRestarted pod = false) → LogFront.illFormed logs = 0 →
          totalBytes records ≤ Settings.maxLogSize) ∧
        ∀ now (r : Recording.Recorder), r.buffer = .empty →
          (totalBytes records ≤ r.bounds.archive →
            ∀ answer ∈ (r.recordAll now records).1, ∃ warnings, answer = .ok warnings) ∧
          ((records.map Record.fileName).Nodup →
            (∀ answer ∈ (r.recordAll now records).1, ∃ warnings, answer = .ok warnings) →
              totalBytes records ≤ r.bounds.archive) := by
  refine ⟨containerLogs_answers c pods (share_lt share), fun cancelled s records t gathered => ?_⟩
  obtain ⟨logs, rfl, order, read⟩ := containerLogs_gives ⟨s, t, gathered⟩
  have shares := shares_fit share
  have present := length_logTargets pods
  have used : LogFront.used logs ≤ Settings.maxLogSize + (logTargets pods true).length * size := by
    have number : logs.length ≤ (logTargets pods true).length + (logTargets pods false).length := by
      have count := order.length_le
      rwa [readTargets, List.length_append, List.length_map, List.length_map, List.length_map]
        at count
    calc LogFront.used logs ≤ logs.length * size :=
      LogFront.used_le fun l member => (read l member).short
      _ ≤ ((logTargets pods true).length + (logTargets pods false).length) * size :=
        Nat.mul_le_mul_right size number
      _ = (logTargets pods false).length * size + (logTargets pods true).length * size := by
        rw [Nat.add_mul, Nat.add_comm]
      _ ≤ Settings.maxLogSize + (logTargets pods true).length * size :=
        Nat.add_le_add_right (present ▸ shares) _
  have whole := LogFront.totalBytes_le logs
  have ill := LogFront.illFormed_le_used logs
  refine ⟨logs, rfl, order, read, used, whole, ?_, fun fresh clean => ?_,
    fun now r empty => ⟨fun room => ?_, fun apart => ?_⟩⟩
  · have earlier : (logTargets pods true).length * size ≤ Settings.maxLogSize :=
      Nat.le_trans (Nat.mul_le_mul_right size (length_logTargets_previous pods)) (present ▸ shares)
    omega
  · rw [logTargets_of_fresh fresh, List.length_nil, Nat.zero_mul] at used
    omega
  · exact (Recording.Recorder.recordAll_empty now empty (LogFront.readable_records logs) room).1
  · exact (LogFront.taken_iff apart now empty).mp

def filling (line : Bytes) : Client Unit where
  pageBound := 1
  list _ _ _ := return .ok ⟨[], none⟩
  get _ _ name := return .error (.notFound name)
  logs _ _ _ := return .ok ⟨[line], none⟩
  raw path _ := return .error (.notFound path)

def fullLine (b : UInt8) : Bytes := List.replicate Settings.maxLogSize b

theorem length_fullLine (b : UInt8) : (fullLine b).length = Settings.maxLogSize :=
  List.length_replicate

def webPod (restarts : Int) : Json :=
  .obj [("metadata", .obj [("name", .str "web-0"), ("namespace", .str "shop")]),
    ("spec", .obj [("containers", .arr [.obj [("name", .str "app")]])]),
    ("status", .obj [("containerStatuses", .arr [.obj [("restartCount", .int restarts)]])])]

def fullLog (b : UInt8) (restarts : Int) (previous : Bool) : LogFront :=
  ⟨previous, webPod restarts, "app", fullLine b⟩

theorem share_webPod (restarts : Int) :
    logBufferSize ([webPod restarts].flatMap containerNames).length = some Settings.maxLogSize := by
  have one : ([webPod restarts].flatMap containerNames).length = 1 := rfl
  rw [one]
  decide +kernel

theorem containerLogs_filling (b : UInt8) (pods : List Json) :
    containerLogs (filling (fullLine b)) pods Settings.maxLogSize false =
      pure ((readTargets pods).map fun t => LogFront.record ⟨t.1, t.2.1, t.2.2, fullLine b⟩) := by
  have front : frontOf? Settings.maxLogSize (.ok ⟨[fullLine b], none⟩) = some (fullLine b) := by
    have some : fullLine b ≠ [] := List.ne_nil_of_length_pos (by rw [length_fullLine]; decide)
    simp [frontOf?, List.take_of_length_le (Nat.le_of_eq (length_fullLine b)), some]
  have records : ∀ targets, logRecords Settings.maxLogSize targets
      ((targets.mapM (askLog (filling (fullLine b)) Settings.maxLogSize)).run ()).1 =
        targets.map fun t => LogFront.record ⟨t.1, t.2.1, t.2.2, fullLine b⟩ := by
    intro targets
    induction targets with
    | nil => rfl
    | cons target targets ih =>
      have asked : (askLog (filling (fullLine b)) Settings.maxLogSize target).run () =
          (.ok ⟨[fullLine b], none⟩, ()) := rfl
      rw [mapM_askLog_cons asked, logRecords_cons, ih, logRecord?, front]
      rfl
  funext s
  exact (containerLogs_run _ pods (by decide) s).trans
    (congrArg (fun records => (Except.ok records, ())) (records _))

theorem containerLogs_once (b : UInt8) :
    containerLogs (filling (fullLine b)) [webPod 0] Settings.maxLogSize false =
      pure ([fullLog b 0 false].map LogFront.record) := by
  rw [containerLogs_filling]
  rfl

theorem containerLogs_again (b : UInt8) :
    containerLogs (filling (fullLine b)) [webPod 1] Settings.maxLogSize false =
      pure ([fullLog b 1 true, fullLog b 1 false].map LogFront.record) := by
  rw [containerLogs_filling]
  rfl

theorem length_ill : (Utf8.rewritten (fullLine 0xFF)).length = Settings.maxLogSize * 3 :=
  Utf8.length_rewritten_replicate (c := none) (fun _ => rfl) _

theorem length_plain : (Utf8.rewritten (fullLine 0x61)).length = Settings.maxLogSize * 1 :=
  Utf8.length_rewritten_replicate (c := some 'a') (fun _ => rfl) _

theorem run_filling {b : UInt8} {pods : List Json} {records : List Record}
    (gathered : containerLogs (filling (fullLine b)) pods Settings.maxLogSize false =
      pure records) :
    (containerLogs (filling (fullLine b)) pods Settings.maxLogSize false).run.run () =
    (.ok records, ()) := by
  rw [gathered]
  rfl

/-- The logs of an earlier and of the present run, both full of ill-formed bytes, take six times the
room. -/
theorem sixTimes_reached :
    logBufferSize ([webPod 1].flatMap containerNames).length = some Settings.maxLogSize ∧
      ∃ records,
        (containerLogs (filling (fullLine 0xFF)) [webPod 1] Settings.maxLogSize false).run.run () =
        (.ok records, ()) ∧ totalBytes records = 6 * Settings.maxLogSize := by
  have share := share_webPod 1
  have gathered := run_filling (containerLogs_again 0xFF)
  obtain ⟨_, _, _, _, _, _, most, _⟩ :=
    (logs_within_shares (filling (fullLine 0xFF)) share).2 false () _ () gathered
  refine ⟨share, _, gathered, Nat.le_antisymm most ?_⟩
  simp only [totalBytes, List.map_cons, List.map_nil, LogFront.bytes_record, fullLog,
    length_ill, List.sum_cons, List.sum_nil]
  omega

/-- One log that is not well-formed, or the two logs of a pod that was restarted, do not fit in an
archive, and a recorder does not take them. -/
theorem fullLogs_refused :
    logBufferSize ([webPod 0].flatMap containerNames).length = some Settings.maxLogSize ∧
    logBufferSize ([webPod 1].flatMap containerNames).length = some Settings.maxLogSize ∧
    (∃ records,
      (containerLogs (filling (fullLine 0xFF)) [webPod 0] Settings.maxLogSize false).run.run () =
      (.ok records, ()) ∧ ¬ totalBytes records ≤ Settings.maxLogSize ∧
      ∀ now (r : Recording.Recorder), r.buffer = .empty → r.bounds.archive = Settings.maxLogSize →
        ¬ ∀ answer ∈ (r.recordAll now records).1, ∃ warnings, answer = .ok warnings) ∧
    ∃ records,
      (containerLogs (filling (fullLine 0x61)) [webPod 1] Settings.maxLogSize false).run.run () =
      (.ok records, ()) ∧ ¬ totalBytes records ≤ Settings.maxLogSize ∧
      ∀ now (r : Recording.Recorder), r.buffer = .empty → r.bounds.archive = Settings.maxLogSize →
        ¬ ∀ answer ∈ (r.recordAll now records).1, ∃ warnings, answer = .ok warnings := by
  have ill : ¬ totalBytes ([fullLog 0xFF 0 false].map LogFront.record) ≤ Settings.maxLogSize := by
    simp only [totalBytes, List.map_cons, List.map_nil, LogFront.bytes_record, fullLog,
      length_ill, List.sum_cons, List.sum_nil]
    decide
  have twice : ¬ totalBytes ([fullLog 0x61 1 true, fullLog 0x61 1 false].map LogFront.record) ≤
      Settings.maxLogSize := by
    simp only [totalBytes, List.map_cons, List.map_nil, LogFront.bytes_record, fullLog,
      length_plain, List.sum_cons, List.sum_nil]
    decide
  refine ⟨share_webPod 0, share_webPod 1, ⟨_, run_filling (containerLogs_once 0xFF), ill, ?_⟩,
    _, run_filling (containerLogs_again 0x61), twice, ?_⟩
  · intro now r empty bound taken
    rw [LogFront.taken_iff (by decide +kernel) now empty, bound] at taken
    exact ill taken
  · intro now r empty bound taken
    rw [LogFront.taken_iff (by decide +kernel) now empty, bound] at taken
    exact twice taken

end ClusterSurvey.Survey
