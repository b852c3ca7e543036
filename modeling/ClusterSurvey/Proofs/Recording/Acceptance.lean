import ClusterSurvey.Proofs.Recording.Separate

/-!
Where the records of a buffer come from. A log holds the records that were accepted, the last one
first. What a buffer keeps under a file name is of the record that was accepted last under that
name: it has its fingerprint and, until it is written, its bytes. Recording and clearing keep it so.
-/
namespace ClusterSurvey.Recording
open Keyed

/-- A record that was accepted, and the number of the call that brought it. -/
structure Acceptance where
  call : Nat
  record : Record

/-- The record that was accepted last under a file name. -/
def latest? (log : List Acceptance) (fileName : String) : Option Acceptance :=
  log.find? fun a => a.record.fileName = fileName

def noted (call : Nat) (r : Record) (reception : Reception) (log : List Acceptance) :
    List Acceptance :=
  if reception.isAccepted then ⟨call, r⟩ :: log else log

theorem latest?_cons (a : Acceptance) (log : List Acceptance) (fileName : String) :
    latest? (a :: log) fileName = if a.record.fileName = fileName then some a
      else latest? log fileName := by
  by_cases here : a.record.fileName = fileName
  · simp [latest?, here]
  · simp [latest?, here]

theorem mem_of_latest? {log : List Acceptance} {fileName : String} {a : Acceptance}
    (found : latest? log fileName = some a) : a ∈ log ∧ a.record.fileName = fileName := by
  refine ⟨List.mem_of_find?_eq_some found, ?_⟩
  simpa using List.find?_some found

theorem noted_of_accepted {reception : Reception} (accepted : reception.isAccepted = true)
    (call : Nat) (r : Record) (log : List Acceptance) :
    noted call r reception log = ⟨call, r⟩ :: log := if_pos accepted

theorem noted_of_refused {reception : Reception} (refused : reception.isAccepted = false)
    (call : Nat) (r : Record) (log : List Acceptance) : noted call r reception log = log := by
  rw [noted, refused, if_neg Bool.false_ne_true]

theorem marshal_eq {r : Record} {data : Bytes} {fingerprint : String}
    (marshalled : r.marshal = .ok (data, fingerprint)) : r.bytes = data ∧ r.mark = fingerprint := by
  constructor
  · simp [Record.bytes, marshalled]
  · simp [Record.mark, marshalled]

structure Kept.ComesFrom (k : Kept) (a : Acceptance) : Prop where
  named : a.record.fileName = k.fileName
  readable : a.record.marshal = .ok (a.record.bytes, a.record.mark)
  marked : k.fingerprint = a.record.mark
  bytes : ∀ data, k.data = some data → data = a.record.bytes

namespace Buffer

/-- A sound buffer that keeps, under each file name, what the last record that was accepted there
left. -/
structure Authored (log : List Acceptance) (b : Buffer) : Prop where
  sound : b.Sound
  origin : ∀ fileName, Option.Rel Kept.ComesFrom (b.get? fileName) (latest? log fileName)

theorem empty_authored : Authored [] empty := ⟨empty_sound, fun _ => Option.Rel.none⟩

theorem record_authored {log : List Acceptance} {b : Buffer} (authored : Authored log b)
    (bounds : Bounds) (now : Instant) (call : Nat) (r : Record) :
    Authored (noted call r (b.record bounds now r).1 log) (b.record bounds now r).2 := by
  refine ⟨record_sound authored.sound bounds now r, ?_⟩
  rcases record_cases bounds now r b with ⟨refused, same⟩ |
    ⟨data, fingerprint, marshalled, accepted, _, taken⟩
  · rw [noted_of_refused refused, same]
    exact authored.origin
  · intro fileName
    obtain ⟨bytes, mark⟩ := marshal_eq marshalled
    rw [noted_of_accepted accepted, latest?_cons, taken, get?]
    by_cases here : r.fileName = fileName
    · rw [if_pos here, ← here, lookup_insert_self]
      refine Option.Rel.some ⟨rfl, by rw [bytes, mark]; exact marshalled, mark.symm, ?_⟩
      intro waiting present
      exact (Option.some.inj present).symm.trans bytes.symm
    · rw [if_neg here, lookup_insert_of_ne (Ne.symm here)]
      exact authored.origin fileName

theorem clear_authored {log : List Acceptance} {b : Buffer} (authored : Authored log b)
    (written : List Kept) :
    Authored log (b.clear written) := by
  refine ⟨clear_sound authored.sound written, fun fileName => ?_⟩
  have origin := authored.origin fileName
  rw [get?_clear authored.sound]
  generalize b.get? fileName = kept, latest? log fileName = author at origin
  cases origin with
  | none => exact Option.Rel.none
  | some comes =>
    refine Option.Rel.some ?_
    unfold cleared
    split
    · exact ⟨comes.named, comes.readable, comes.marked, fun data present => by cases present⟩
    · exact comes

theorem Authored.latest_of_kept {log : List Acceptance} {b : Buffer} (authored : Authored log b)
    {fileName : String} {k : Kept} (found : b.get? fileName = some k) :
    ∃ a, latest? log fileName = some a ∧ k.ComesFrom a := by
  have origin := authored.origin fileName
  rw [found] at origin
  generalize latest? log fileName = author at origin
  cases origin with
  | some comes => exact ⟨_, rfl, comes⟩

theorem Authored.kept_of_latest {log : List Acceptance} {b : Buffer} (authored : Authored log b)
    {fileName : String} {a : Acceptance} (found : latest? log fileName = some a) :
    ∃ k, b.get? fileName = some k ∧ k.ComesFrom a := by
  have origin := authored.origin fileName
  rw [found] at origin
  generalize b.get? fileName = kept at origin
  cases origin with
  | some comes => exact ⟨_, rfl, comes⟩

end Buffer

end ClusterSurvey.Recording
