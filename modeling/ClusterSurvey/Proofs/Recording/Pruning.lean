import ClusterSurvey.Proofs.Recording.Newest
import ClusterSurvey.Proofs.Time.Instant
import ClusterSurvey.Recording.Schedule

/-!
What pruning takes from a directory. It deletes the archives that were changed up to a time and
nothing else, and a reader who asks for archives changed after that time finds what it found before.
The time is that of the last report or the greatest age of an archive, whichever is later, so what
is neither reported nor that old stays.
-/
namespace ClusterSurvey

namespace Recording
open Keyed

structure Expired (d : Directory) (cutoff : Instant) (name : String) : Prop where
  named : ∃ middle, name = "insights-" ++ middle ++ ".tar.gz"
  file : ∃ content modified, d.get? name = some (.file content modified) ∧ modified ≤ cutoff

def expiredNames (cutoff : Instant) (d : Directory) : List String :=
  ((archives d).filter fun a => a.2.2 ≤ cutoff).map fun a => a.1

def deletedNames (kept : String → Option String) (cutoff : Instant) (d : Directory) : List String :=
  (expiredNames cutoff d).filter fun name => (kept name).isNone

/-- What is left of a directory. -/
def pruned (kept : String → Option String) (cutoff : Instant) (d : Directory) : Directory :=
  ⟨d.nodes.filter fun n => !(deletedNames kept cutoff d).contains n.1⟩

variable {d : Directory} {kept : String → Option String} {cutoff : Instant}

theorem mem_expiredNames_iff (ordered : Ascending d.nodes) {name : String} :
    name ∈ expiredNames cutoff d ↔ Expired d cutoff name := by
  unfold expiredNames
  rw [List.mem_map]
  constructor
  · rintro ⟨⟨name, content, modified⟩, member, rfl⟩
    obtain ⟨here, old⟩ := List.mem_filter.mp member
    obtain ⟨inside, named⟩ := mem_archives_iff.mp here
    exact ⟨isArchiveName_iff.mp named, content, modified, lookup_of_mem ordered inside,
      of_decide_eq_true old⟩
  · rintro ⟨named, content, modified, stands, old⟩
    refine ⟨(name, content, modified),
      List.mem_filter.mpr ⟨mem_archives_iff.mpr ⟨?_, ?_⟩, decide_eq_true old⟩, rfl⟩
    · exact mem_of_lookup stands
    · exact isArchiveName_iff.mpr named

theorem mem_deletedNames_iff (ordered : Ascending d.nodes) {name : String} :
    name ∈ deletedNames kept cutoff d ↔ Expired d cutoff name ∧ kept name = none := by
  unfold deletedNames
  rw [List.mem_filter, mem_expiredNames_iff ordered, Option.isNone_iff_eq_none]

theorem deletedNames_nodup (ordered : Ascending d.nodes) : (deletedNames kept cutoff d).Nodup := by
  have all := nodup_keys (archives_ascending ordered)
  exact (all.sublist (List.filter_sublist.map _)).sublist List.filter_sublist

theorem get?_pruned (ordered : Ascending d.nodes) {name : String}
    (stays : Expired d cutoff name → kept name ≠ none) :
    (pruned kept cutoff d).get? name = d.get? name := by
  have other : name ∉ deletedNames kept cutoff d := by
    intro gone
    obtain ⟨expired, deletable⟩ := (mem_deletedNames_iff ordered).mp gone
    exact stays expired deletable
  unfold Directory.get? pruned
  rw [lookup_filter_keys fun key => !(deletedNames kept cutoff d).contains key]
  simp [other]

theorem get?_pruned_expired (ordered : Ascending d.nodes) {name : String}
    (expired : Expired d cutoff name) (deletable : kept name = none) :
    (pruned kept cutoff d).get? name = none := by
  have gone := (mem_deletedNames_iff ordered).mpr ⟨expired, deletable⟩
  unfold Directory.get? pruned
  rw [lookup_filter_keys fun key => !(deletedNames kept cutoff d).contains key]
  simp [gone]

theorem not_expired_of_changed {name : String} {content : Content} {modified : Instant}
    (stands : d.get? name = some (.file content modified)) (changed : cutoff < modified) :
    ¬ Expired d cutoff name := by
  rintro ⟨_, content', modified', stands', old⟩
  cases stands.symm.trans stands'
  exact Instant.not_le_of_lt changed old

theorem archives_filter (which : String → Bool) (d : Directory) :
    archives ⟨d.nodes.filter fun n => which n.1⟩ = (archives d).filter fun a => which a.1 := by
  unfold archives
  rw [List.filterMap_filter, List.filter_filterMap]
  congr 1
  funext n
  obtain ⟨name, node⟩ := n
  cases node with
  | file content modified =>
    dsimp only
    cases chosen : which name <;> cases isArchiveName name <;> simp [chosen, Option.filter]
  | directory => simp
  | link target => simp

theorem newestArchive_pruned (ordered : Ascending d.nodes) {since : Instant}
    (later : cutoff ≤ since) :
    newestArchive since (some (pruned kept cutoff d)) = newestArchive since (some d) := by
  have same : ((archives (pruned kept cutoff d)).filter fun a => since < a.2.2) =
      (archives d).filter fun a => since < a.2.2 := by
    unfold pruned
    rw [archives_filter fun key => !(deletedNames kept cutoff d).contains key, List.filter_filter]
    apply List.filter_congr
    rintro ⟨name, content, modified⟩ member
    by_cases changed : since < modified
    · have stands := lookup_of_mem ordered (mem_archives_iff.mp member).1
      have stays : name ∉ deletedNames kept cutoff d := by
        intro gone
        have fresh : cutoff < modified := Instant.lt_of_le_of_lt later changed
        exact not_expired_of_changed stands fresh ((mem_deletedNames_iff ordered).mp gone).1
      simp [changed, stays]
    · simp [changed]
  unfold newestArchive
  dsimp only
  rw [same]

theorem pruneFailure?_eq_none_iff {texts : List String} :
    pruneFailure? texts = none ↔ texts = [] := by
  cases texts with
  | nil => simp [pruneFailure?]
  | cons text rest => cases rest <;> simp [pruneFailure?]

theorem prune_cases (kept : String → Option String) (cutoff : Instant) (d : Directory) :
    (∃ e, prune kept cutoff (some d) = (.error e, some (pruned kept cutoff d)) ∧
      ∃ name ∈ expiredNames cutoff d, kept name ≠ none) ∨
    prune kept cutoff (some d) =
      (.ok (deletedNames kept cutoff d).length, some (pruned kept cutoff d)) ∧
      ∀ name ∈ expiredNames cutoff d, kept name = none := by
  cases failure : pruneFailure? ((expiredNames cutoff d).filterMap kept) with
  | some e =>
    left
    have told : prune kept cutoff (some d) = (.error e, some (pruned kept cutoff d)) := by
      rw [expiredNames] at failure
      simp only [prune, failure]
      rfl
    refine ⟨e, told, ?_⟩
    by_contra none
    push Not at none
    rw [List.filterMap_eq_nil_iff.mpr none] at failure
    cases failure
  | none =>
    right
    have told : prune kept cutoff (some d) =
        (.ok (deletedNames kept cutoff d).length, some (pruned kept cutoff d)) := by
      rw [expiredNames] at failure
      simp only [prune, failure]
      rfl
    exact ⟨told, List.filterMap_eq_nil_iff.mp (pruneFailure?_eq_none_iff.mp failure)⟩

theorem pruned_ascending (ordered : Ascending d.nodes) : Ascending (pruned kept cutoff d).nodes :=
  ordered.filter _

theorem length_pruned (ordered : Ascending d.nodes) :
    (deletedNames kept cutoff d).length + (pruned kept cutoff d).names.length = d.names.length := by
  have inside : deletedNames kept cutoff d ⊆ d.nodes.map fun n => n.1 := by
    intro name gone
    obtain ⟨⟨_, content, modified, stands, _⟩, _⟩ := (mem_deletedNames_iff ordered).mp gone
    exact List.mem_map_of_mem (f := fun n : String × FileNode => n.1) (mem_of_lookup stands)
  have counted := length_filter_keys (nodup_keys ordered) (deletedNames_nodup ordered) inside
  unfold Directory.names
  rw [List.length_map, List.length_map]
  exact counted

structure Pruned (kept : String → Option String) (cutoff : Instant) (before after : Directory)
    (answer : Except GatherError Nat) : Prop where
  deleted : ∀ name, Expired before cutoff name → kept name = none → after.get? name = none
  left : ∀ name, (Expired before cutoff name → kept name ≠ none) →
    after.get? name = before.get? name
  failed : (∃ e, answer = .error e) ↔ ∃ name, Expired before cutoff name ∧ kept name ≠ none
  counted : ∀ n, answer = .ok n → n + after.names.length = before.names.length

theorem prune_pruned (ordered : Ascending d.nodes) (kept : String → Option String)
    (cutoff : Instant) :
    ∃ answer, prune kept cutoff (some d) = (answer, some (pruned kept cutoff d)) ∧
      Pruned kept cutoff d (pruned kept cutoff d) answer := by
  have deleted : ∀ name, Expired d cutoff name → kept name = none →
      (pruned kept cutoff d).get? name = none :=
    fun _ => get?_pruned_expired ordered
  have left : ∀ name, (Expired d cutoff name → kept name ≠ none) →
      (pruned kept cutoff d).get? name = d.get? name := fun _ => get?_pruned ordered
  rcases prune_cases kept cutoff d with ⟨e, outcome, name, expired, stuck⟩ | ⟨outcome, all⟩
  · refine ⟨_, outcome, deleted, left, ?_, ?_⟩
    · exact ⟨fun _ => ⟨name, (mem_expiredNames_iff ordered).mp expired, stuck⟩, fun _ => ⟨e, rfl⟩⟩
    · intro n done
      cases done
  · refine ⟨_, outcome, deleted, left, ?_, ?_⟩
    · constructor
      · rintro ⟨e, failed⟩
        cases failed
      · rintro ⟨name, expired, stuck⟩
        exact absurd (all name ((mem_expiredNames_iff ordered).mpr expired)) stuck
    · intro n done
      cases done
      exact length_pruned ordered

/-- A file that was changed after the last report and less than an age ago. The clock of files has
no leap seconds. -/
structure Wanted (now lastReported : Instant) (age : Nat) (modified : Instant) : Prop where
  unreported : lastReported < modified
  young : now.nanos - modified.nanos < age * 1000000
  noLeap : modified.isLeap = false

theorem Wanted.changed {now lastReported modified : Instant} {age : Nat}
    (wanted : Wanted now lastReported age modified) : Job.cutoff now lastReported age < modified :=
  Instant.latest_lt wanted.unreported
    ((Instant.minusMillis_lt_iff wanted.noLeap now age).mpr wanted.young)

def Recorder.Stands (s : Recorder) (name : String) (content : Content) (modified : Instant) :
    Prop :=
  ∃ d, s.storage = some d ∧ Ascending d.nodes ∧ d.get? name = some (.file content modified)

theorem Recorder.Stands.prune {s : Recorder} {name : String} {content : Content}
    {modified : Instant} (stands : s.Stands name content modified) (changed : cutoff < modified)
    (kept : String → Option String) :
    (s.prune kept cutoff).2.Stands name content modified := by
  obtain ⟨d, there, ordered, here⟩ := stands
  obtain ⟨answer, outcome, _⟩ := prune_pruned ordered kept cutoff
  unfold Recorder.prune
  rw [there, outcome]
  refine ⟨pruned kept cutoff d, rfl, pruned_ascending ordered, ?_⟩
  rw [get?_pruned ordered]
  · exact here
  · intro expired
    exact absurd expired (not_expired_of_changed here changed)

/-- Rounds of pruning that a file outlives: it was changed after the last report and less than the
greatest age ago. -/
structure Timeline.Spares (t : Timeline) (now lastReported : Instant) (name : String)
    (content : Content) (modified : Instant) : Prop where
  job : t.job = .pruning now lastReported
  wanted : Wanted now lastReported (Job.pruneAge t.recorder.maxAge) modified
  stands : t.recorder.Stands name content modified

namespace Timeline.Spares

variable {t : Timeline} {now lastReported modified : Instant} {name : String} {content : Content}

theorem round (spares : t.Spares now lastReported name content modified) (time : Nat) :
    (t.round time).Spares now lastReported name content modified := by
  have after : (t.round time).recorder =
      (t.recorder.prune (fun _ => none)
          (Job.cutoff now lastReported (Job.pruneAge t.recorder.maxAge))).2 := by
    unfold Timeline.round
    rw [spares.job]
    rfl
  have age : (t.round time).recorder.maxAge = t.recorder.maxAge := by
    rw [after]
    rfl
  constructor
  · exact spares.job
  · rw [age]
    exact spares.wanted
  · rw [after]
    exact spares.stands.prune spares.wanted.changed _

theorem run (spares : t.Spares now lastReported name content modified) (fuel goal : Nat) :
    (Timeline.run fuel goal t).Spares now lastReported name content modified := by
  induction fuel generalizing t with
  | zero => exact ⟨spares.job, spares.wanted, spares.stands⟩
  | succ fuel ih =>
    rw [Timeline.run]
    split
    · exact ⟨spares.job, spares.wanted, spares.stands⟩
    · exact ih (spares.round _)

theorem advance (spares : t.Spares now lastReported name content modified) (goal : Nat) :
    (t.advance goal).Spares now lastReported name content modified := by
  unfold Timeline.advance
  split
  · exact spares
  · exact spares.run _ _

end Timeline.Spares

/-- Pruning deletes the archives that were not changed after a time, as far as they can be deleted,
and leaves the rest. A reader finds the same archive before and after if it asks for changes after
that time or later. A round of the loop, and any number of them, leaves each archive that was
changed after the last report and less than the greatest age ago, also where other archives cannot
be deleted. -/
theorem pruning_leaves_wanted {s : Recorder} {d : Directory} (there : s.storage = some d)
    (ordered : Ascending d.nodes) :
    (∀ kept cutoff, ∃ answer after, s.prune kept cutoff =
      (answer, { s with storage := some after }) ∧
      Pruned kept cutoff d after answer ∧
      ∀ since, cutoff ≤ since →
        Recorder.summary since { s with storage := some after } = s.summary since) ∧
    ∀ now lastReported name content modified, d.get? name = some (.file content modified) →
      let age := if s.maxAge ≤ 9223372036854775807 then s.maxAge else 365 * 86400000
      Wanted now lastReported age modified →
      (∀ kept, (s.prune kept (Job.cutoff now lastReported age)).2.Stands name content modified) ∧
      ∀ t : Timeline, t.job = .pruning now lastReported → t.recorder = s →
        (∀ time, (t.round time).recorder.Stands name content modified) ∧
        ∀ goal, (t.advance goal).recorder.Stands name content modified := by
  constructor
  · intro kept cutoff
    obtain ⟨answer, outcome, effect⟩ := prune_pruned ordered kept cutoff
    refine ⟨answer, pruned kept cutoff d, ?_, effect, ?_⟩
    · unfold Recorder.prune
      rw [there, outcome]
    · intro since later
      unfold Recorder.summary
      rw [there]
      exact newestArchive_pruned ordered later
  · intro now lastReported name content modified here age wanted
    have stands : s.Stands name content modified := ⟨d, there, ordered, here⟩
    constructor
    · intro kept
      exact stands.prune wanted.changed kept
    · rintro t job rfl
      have spares : t.Spares now lastReported name content modified := ⟨job, wanted, stands⟩
      exact ⟨fun time => (spares.round time).stands, fun goal => (spares.advance goal).stands⟩

def mixed : Directory :=
  ⟨[("insights-a.tar.gz", .file (.archive []) ⟨10, 0⟩), ("insights-b.tar.gz", .directory),
    ("insights-c.tar.gz", .file (.bytes [1]) ⟨56, 0⟩),
    ("insights-d.tar.gz", .file (.archive []) ⟨56, 1⟩), ("notes.txt", .file (.bytes [2]) ⟨1, 0⟩)]⟩

def mixedRecorder : Recorder := { Recorder.start ⟨100, 100⟩ 1000 with storage := some mixed }

def mixedTimeline : Timeline :=
  ⟨.pruning ⟨200, 0⟩ ⟨20, 0⟩, .start (prunePeriod 1000 100), 0, mixedRecorder⟩

theorem mixed_pruned :
    Ascending mixed.nodes ∧ Wanted ⟨200, 0⟩ ⟨20, 0⟩ (Job.pruneAge mixedRecorder.maxAge) ⟨56, 1⟩ ∧
    (∃ e after, mixedRecorder.prune (fun name => if name = "insights-a.tar.gz" then some "busy"
      else none) ⟨56, 0⟩ =
        (.error e, { mixedRecorder with storage := some after }) ∧
      after.get? "insights-c.tar.gz" = none ∧ after.get? "notes.txt" = mixed.get? "notes.txt" ∧
      Recorder.summary ⟨56, 0⟩ { mixedRecorder with storage := some after } =
        mixedRecorder.summary ⟨56, 0⟩) ∧
    (mixedTimeline.round 2000).recorder.Stands "insights-d.tar.gz" (.archive []) ⟨56, 1⟩ := by
  have ordered : Ascending mixed.nodes := by
    unfold Ascending
    decide
  have wanted : Wanted ⟨200, 0⟩ ⟨20, 0⟩ (Job.pruneAge mixedRecorder.maxAge) ⟨56, 1⟩ :=
    ⟨by decide, by decide, by decide⟩
  obtain ⟨effect, spared⟩ := pruning_leaves_wanted (s := mixedRecorder) rfl ordered
  refine ⟨ordered, wanted, ?_, ?_⟩
  · obtain ⟨answer, after, outcome, result, same⟩ :=
      effect (fun name => if name = "insights-a.tar.gz" then some "busy" else none) ⟨56, 0⟩
    obtain ⟨e, rfl⟩ := result.failed.mpr
      ⟨"insights-a.tar.gz", ⟨⟨"a", by decide⟩, .archive [], ⟨10, 0⟩, rfl, by decide⟩, by decide⟩
    refine ⟨e, after, outcome, ?_, ?_, same _ (Instant.le_refl _)⟩
    · exact result.deleted _ ⟨⟨"c", by decide⟩, .bytes [1], ⟨56, 0⟩, rfl, by decide⟩ (by decide)
    · apply result.left
      rintro ⟨⟨middle, named⟩, _⟩
      have front := congrArg (fun name => name.toList.head?) named
      simp at front
  · obtain ⟨_, rounds⟩ :=
      spared ⟨200, 0⟩ ⟨20, 0⟩ "insights-d.tar.gz" (.archive []) ⟨56, 1⟩ rfl wanted
    exact (rounds mixedTimeline rfl rfl).1 2000

end Recording

end ClusterSurvey
