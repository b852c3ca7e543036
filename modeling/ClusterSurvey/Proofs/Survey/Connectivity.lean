import ClusterSurvey.Proofs.Keyed
import ClusterSurvey.Proofs.Time.Instant
import ClusterSurvey.Survey.Connectivity
import Mathlib.Data.List.Forall2
import Mathlib.Data.List.Induction

/-!
What is kept of why connections failed. The time under a reason and a message is the latest of the
failures that have both, whatever was noted first; and what is kept is told by these times, so no
order of the checks or of what they hold is seen in it.
-/
namespace ClusterSurvey.Survey

/-- The entries of a check: its failures, and what was logged at the start and at the end of its
outages. -/
def IsEntryOf (check entry : Json) : Prop :=
  entry ∈ check.itemsAt ["status", "failures"] ∨
    ∃ outage ∈ check.itemsAt ["status", "outages"],
      entry ∈ outage.itemsAt ["startLogs"] ∨ entry ∈ outage.itemsAt ["endLogs"]

/-- An entry that is not marked as a success tells of a failure. A reason or a message that is
missing is empty. -/
structure TellsFailure (entry : Json) (reason message : String) (time : Instant) : Prop where
  unsuccessful : entry.get? "success" ≠ some (.bool true)
  reason : (entry.stringAt? ["reason"]).getD "" = reason
  message : (entry.stringAt? ["message"]).getD "" = message
  time : entry.timeAt? ["time"] = some time

theorem mem_connectivityEntries {check entry : Json} :
    entry ∈ connectivityEntries check ↔ IsEntryOf check entry := by
  simp [connectivityEntries, IsEntryOf]

theorem connectivityFailure_eq_some_iff {entry : Json} {f : ConnectivityFailure} :
    connectivityFailure? entry = some f ↔ TellsFailure entry f.reason f.message f.time := by
  unfold connectivityFailure?
  split
  · rename_i success
    exact ⟨nofun, fun tells => absurd success tells.unsuccessful⟩
  · rename_i unsuccessful
    rw [Option.map_eq_some_iff]
    constructor
    · rintro ⟨time, read, rfl⟩
      exact ⟨unsuccessful, rfl, rfl, read⟩
    · intro tells
      refine ⟨f.time, tells.time, ?_⟩
      rw [Json.stringAt, Json.stringAt, tells.reason, tells.message]

def failuresOf (checks : List Json) : List ConnectivityFailure :=
  (checks.flatMap connectivityEntries).filterMap connectivityFailure?

theorem mem_failuresOf {checks : List Json} {f : ConnectivityFailure} :
    f ∈ failuresOf checks ↔
      ∃ check ∈ checks, ∃ entry, IsEntryOf check entry ∧
        TellsFailure entry f.reason f.message f.time := by
  simp only [failuresOf, List.mem_filterMap, List.mem_flatMap, mem_connectivityEntries,
    connectivityFailure_eq_some_iff]
  constructor
  · rintro ⟨entry, ⟨check, member, inside⟩, tells⟩
    exact ⟨check, member, entry, inside, tells⟩
  · rintro ⟨check, member, entry, inside, tells⟩
    exact ⟨entry, ⟨check, member, inside⟩, tells⟩

def instantsOf (failures : List ConnectivityFailure) (reason message : String) : List Instant :=
  (failures.filter fun f => f.reason = reason ∧ f.message = message).map ConnectivityFailure.time

theorem mem_instantsOf {checks : List Json} {reason message : String} {time : Instant} :
    time ∈ instantsOf (failuresOf checks) reason message ↔
      ∃ check ∈ checks, ∃ entry, IsEntryOf check entry ∧
        TellsFailure entry reason message time := by
  simp only [instantsOf, List.mem_map, List.mem_filter, decide_eq_true_eq]
  constructor
  · rintro ⟨f, ⟨member, rfl, rfl⟩, rfl⟩
    exact mem_failuresOf.mp member
  · intro tells
    exact ⟨⟨reason, message, time⟩, ⟨mem_failuresOf.mpr tells, rfl, rfl⟩, rfl⟩

theorem instantsOf_concat (failures : List ConnectivityFailure) (f : ConnectivityFailure)
    (reason message : String) :
    instantsOf (failures ++ [f]) reason message =
      instantsOf failures reason message ++ if f.reason = reason ∧ f.message = message then
        [f.time] else [] := by
  rw [instantsOf, List.filter_append, List.map_append, instantsOf]
  by_cases matching : f.reason = reason ∧ f.message = message
  · simp [matching]
  · simp [matching]

/-! What is noted. -/

/-- What is kept under a reason and a message. -/
def timeUnder? (reasons : List (String × LatestTimes)) (reason message : String) : Option Instant :=
  (reasons.lookup reason).bind fun times => times.lookup message

structure Orderly (reasons : List (String × LatestTimes)) : Prop where
  ascending : Keyed.Ascending reasons
  messages : ∀ r ∈ reasons, Keyed.Ascending r.2
  inhabited : ∀ r ∈ reasons, r.2 ≠ []

namespace Orderly

variable {reasons others : List (String × LatestTimes)}

theorem nil : Orderly [] := ⟨List.Pairwise.nil, List.forall_mem_nil _, List.forall_mem_nil _⟩

theorem messagesUnder (orderly : Orderly reasons) (reason : String) :
    Keyed.Ascending ((reasons.lookup reason).getD []) :=
  Keyed.getD_lookup orderly.messages List.Pairwise.nil reason

theorem noteFailure (orderly : Orderly reasons) (f : ConnectivityFailure) :
    Orderly (noteFailure f reasons) where
  ascending := Keyed.ascending_upsert orderly.ascending _ _
  messages := by
    intro r member
    rcases Keyed.mem_upsert orderly.ascending member with rfl | before
    · exact Keyed.ascending_upsert (orderly.messagesUnder f.reason) _ _
    · exact orderly.messages r before
  inhabited := by
    intro r member
    rcases Keyed.mem_upsert orderly.ascending member with rfl | before
    · exact Keyed.upsert_ne_nil _ _ _
    · exact orderly.inhabited r before

theorem timeUnder_noteFailure (orderly : Orderly reasons) (f : ConnectivityFailure)
    (reason message : String) :
    timeUnder? (Survey.noteFailure f reasons) reason message =
      if f.reason = reason ∧ f.message = message then
        some (((timeUnder? reasons reason message).map (·.latest f.time)).getD f.time)
      else timeUnder? reasons reason message := by
  unfold timeUnder? Survey.noteFailure
  by_cases here : f.reason = reason
  · subst here
    have under : ∀ n, (reasons.lookup f.reason).bind (·.lookup n) =
        ((reasons.lookup f.reason).getD []).lookup n := by
      intro n
      cases reasons.lookup f.reason <;> rfl
    rw [Keyed.lookup_upsert_self orderly.ascending, Option.bind_some, under, noteTime]
    by_cases same : f.message = message
    · subst same
      rw [Keyed.lookup_upsert_self (orderly.messagesUnder f.reason), if_pos ⟨rfl, rfl⟩]
    · rw [Keyed.lookup_upsert_of_ne (Ne.symm same), if_neg fun both => same both.2]
  · rw [Keyed.lookup_upsert_of_ne (Ne.symm here), if_neg fun both => here both.1]

theorem exists_time (orderly : Orderly reasons) {reason : String} {times : LatestTimes}
    (found : reasons.lookup reason = some times) :
    ∃ message time, timeUnder? reasons reason message = some time := by
  have member := Keyed.mem_of_lookup found
  obtain ⟨⟨message, time⟩, rest, rfl⟩ := List.exists_cons_of_ne_nil (orderly.inhabited _ member)
  refine ⟨message, time, ?_⟩
  rw [timeUnder?, found, Option.bind_some]
  exact Keyed.lookup_of_mem (orderly.messages _ member) List.mem_cons_self

theorem lookup_of_same (first : Orderly reasons) (second : Orderly others)
    (same : ∀ reason message, timeUnder? reasons reason message = timeUnder? others reason message)
    {reason : String} {times : LatestTimes} (found : reasons.lookup reason = some times) :
    others.lookup reason = some times := by
  -- The reason has a message, and its time is kept on the other side too, so the reason is there.
  obtain ⟨message, time, here⟩ := first.exists_time found
  rw [same] at here
  obtain ⟨times', found', _⟩ := Option.bind_eq_some_iff.mp here
  have equal : times = times' := by
    apply Keyed.Ascending.ext (first.messages _ (Keyed.mem_of_lookup found))
      (second.messages _ (Keyed.mem_of_lookup found'))
    intro message
    have both := same reason message
    rwa [timeUnder?, timeUnder?, found, found'] at both
  rw [equal, found']

theorem ext (first : Orderly reasons) (second : Orderly others)
    (same : ∀ reason message, timeUnder? reasons reason message =
      timeUnder? others reason message) :
    reasons = others := by
  refine first.ascending.ext second.ascending fun reason => Option.ext fun times => ?_
  exact ⟨first.lookup_of_same second same, second.lookup_of_same first fun r m => (same r m).symm⟩

end Orderly

def noted (failures : List ConnectivityFailure) : List (String × LatestTimes) :=
  failures.foldl (fun acc f => noteFailure f acc) []

theorem connectivityReasons_eq (checks : List Json) :
    connectivityReasons checks = noted (failuresOf checks) := rfl

theorem noted_concat (failures : List ConnectivityFailure) (f : ConnectivityFailure) :
    noted (failures ++ [f]) = noteFailure f (noted failures) := by
  simp only [noted, List.foldl_append, List.foldl_cons, List.foldl_nil]

theorem noted_orderly (failures : List ConnectivityFailure) : Orderly (noted failures) := by
  induction failures using List.reverseRecOn with
  | nil => exact .nil
  | append_singleton failures f ih =>
    rw [noted_concat]
    exact ih.noteFailure f

theorem timeUnder_noted (failures : List ConnectivityFailure) (reason message : String) :
    timeUnder? (noted failures) reason message =
      Instant.latestIn? (instantsOf failures reason message) := by
  induction failures using List.reverseRecOn with
  | nil => rfl
  | append_singleton failures f ih =>
    rw [noted_concat, (noted_orderly failures).timeUnder_noteFailure, ih, instantsOf_concat]
    split
    · exact (Instant.latestIn?_concat _ _).symm
    · rw [List.append_nil]

theorem noted_perm {failures others : List ConnectivityFailure} (perm : failures.Perm others) :
    noted failures = noted others := by
  refine (noted_orderly failures).ext (noted_orderly others) fun reason message =>
    Option.ext fun time => ?_
  have times : (instantsOf failures reason message).Perm (instantsOf others reason message) :=
    (perm.filter _).map _
  simp only [timeUnder_noted, Instant.latestIn?_eq_some_iff, times.mem_iff]

/-! What may be permuted. -/

/-- Two lists that are the same but for their order, and for what `R` lets differ. -/
def PermutedBy {α : Type} (R : α → α → Prop) (l m : List α) : Prop :=
  ∃ between, l.Perm between ∧ List.Forall₂ R between m

theorem PermutedBy.flatMap {α β : Type} {R : α → α → Prop} {f : α → List β} {l m : List α}
    (permuted : PermutedBy R l m) (each : ∀ a b, R a b → (f a).Perm (f b)) :
    (l.flatMap f).Perm (m.flatMap f) := by
  obtain ⟨between, perm, related⟩ := permuted
  refine (perm.flatMap_right f).trans ?_
  clear perm
  induction related with
  | nil => exact List.Perm.refl _
  | cons first _ ih =>
    rw [List.flatMap_cons, List.flatMap_cons]
    exact (each _ _ first).append ih

def OutageAlike (a b : Json) : Prop :=
  (a.itemsAt ["startLogs"]).Perm (b.itemsAt ["startLogs"]) ∧
    (a.itemsAt ["endLogs"]).Perm (b.itemsAt ["endLogs"])

def CheckAlike (a b : Json) : Prop :=
  (a.itemsAt ["status", "failures"]).Perm (b.itemsAt ["status", "failures"]) ∧
    PermutedBy OutageAlike (a.itemsAt ["status", "outages"]) (b.itemsAt ["status", "outages"])

theorem CheckAlike.entries {a b : Json} (alike : CheckAlike a b) :
    (connectivityEntries a).Perm (connectivityEntries b) :=
  alike.1.append (alike.2.flatMap fun _ _ logs => logs.1.append logs.2)

theorem failuresOf_perm {checks others : List Json}
    (permuted : PermutedBy CheckAlike checks others) :
    (failuresOf checks).Perm (failuresOf others) :=
  (permuted.flatMap fun _ _ => CheckAlike.entries).filterMap _

/-- A time is kept under a reason and a message exactly if a check has an entry that tells of such a
failure, and then it is the latest of their times. Reasons and messages are there once, none of the
reasons without a message; and the order of the checks, of their failures, of their outages and of
what was logged of these is not seen. -/
theorem failures_pointwise_latest (checks : List Json) :
    (∀ reason message, (∃ time, timeUnder? (connectivityReasons checks) reason message =
      some time) ↔
      ∃ check ∈ checks, ∃ entry, IsEntryOf check entry ∧
        ∃ time, TellsFailure entry reason message time) ∧
    (∀ reason message time, timeUnder? (connectivityReasons checks) reason message = some time ↔
      (∃ check ∈ checks, ∃ entry, IsEntryOf check entry ∧ TellsFailure entry reason message time) ∧
        ∀ check ∈ checks, ∀ entry, IsEntryOf check entry →
          ∀ other, TellsFailure entry reason message other →
          other ≤ time) ∧
    Orderly (connectivityReasons checks) ∧
    ∀ others, PermutedBy CheckAlike checks others →
      connectivityReasons others = connectivityReasons checks := by
  have kept : ∀ reason message time, timeUnder? (connectivityReasons checks) reason message =
      some time ↔
      time ∈ instantsOf (failuresOf checks) reason message ∧
        ∀ other ∈ instantsOf (failuresOf checks) reason message, other ≤ time := by
    intro reason message time
    rw [connectivityReasons_eq, timeUnder_noted, Instant.latestIn?_eq_some_iff]
  refine ⟨fun reason message => ?_, fun reason message time => ?_, noted_orderly _,
    fun others permuted => ?_⟩
  · constructor
    · rintro ⟨time, found⟩
      obtain ⟨check, member, entry, inside, tells⟩ :=
        mem_instantsOf.mp ((kept reason message time).mp found).1
      exact ⟨check, member, entry, inside, time, tells⟩
    · rintro ⟨check, member, entry, inside, time, tells⟩
      have some : time ∈ instantsOf (failuresOf checks) reason message :=
        mem_instantsOf.mpr ⟨check, member, entry, inside, tells⟩
      obtain ⟨first, rest, times⟩ := List.exists_cons_of_ne_nil (List.ne_nil_of_mem some)
      refine ⟨rest.foldl Instant.latest first, ?_⟩
      rw [connectivityReasons_eq, timeUnder_noted, times, Instant.latestIn?_cons]
  · rw [kept, mem_instantsOf]
    refine and_congr_right fun _ => ?_
    constructor
    · intro latest check member entry inside other tells
      exact latest other (mem_instantsOf.mpr ⟨check, member, entry, inside, tells⟩)
    · intro latest other member
      obtain ⟨check, here, entry, inside, tells⟩ := mem_instantsOf.mp member
      exact latest check here entry inside other tells
  · rw [connectivityReasons_eq, connectivityReasons_eq, noted_perm (failuresOf_perm permuted)]

def entryOf (reason message time : String) : Json :=
  .obj [("message", .str message), ("reason", .str reason), ("success", .bool false),
    ("time", .str time)]

def outageOf (startLogs endLogs : List Json) : Json :=
  .obj [("endLogs", .arr endLogs), ("startLogs", .arr startLogs)]

def checkOf (failures outages : List Json) : Json :=
  .obj [("status", .obj [("failures", .arr failures), ("outages", .arr outages)])]

theorem twoChecks_rearranged :
    let dial := entryOf "TCPConnectError" "dial timeout"
    let lost :=
      outageOf [entryOf "DNSError" "no such host" "2021-01-01T09:00:00Z"]
        [dial "2021-01-01T10:30:00Z"]
    let early := dial "2021-01-01T10:00:00Z"
    let late := dial "2021-01-01T11:00:00Z"
    let checks := [checkOf [early, late] [lost], checkOf [] []]
    let others := [checkOf [] [], checkOf [late, early] [lost]]
    PermutedBy CheckAlike checks others ∧ connectivityReasons others = connectivityReasons checks ∧
      timeUnder? (connectivityReasons checks) "TCPConnectError" "dial timeout" =
        some (.ofSeconds 1609498800) := by
  intro dial lost early late checks others
  have same : ∀ outage, OutageAlike outage outage := fun _ => ⟨List.Perm.refl _, List.Perm.refl _⟩
  have permuted : PermutedBy CheckAlike checks others := by
    refine ⟨[checkOf [] [], checkOf [early, late] [lost]], List.Perm.swap _ _ _,
      .cons ?_ (.cons ?_ .nil)⟩
    · exact ⟨List.Perm.refl _, [], List.Perm.refl _, .nil⟩
    · exact ⟨List.Perm.swap _ _ _, [lost], List.Perm.refl _, .cons (same lost) .nil⟩
  exact ⟨permuted, (failures_pointwise_latest checks).2.2.2 others permuted, by decide +kernel⟩

end ClusterSurvey.Survey
