import ClusterSurvey.Proofs.Recording.Acceptance
import ClusterSurvey.Proofs.Recording.Session

/-!
The bound of a shared recorder, in every state that a run can reach. The record about the run itself
may exceed it, so the size of the buffer alone says nothing; what stays within the bound are the
bytes of all other records. A record counts by its name, while the buffer knows file names only, so
an account of the run keeps which record was accepted last under each of them.
-/
namespace ClusterSurvey.Recording
open Keyed

namespace Buffer

/-- Whether the record about the run itself was accepted last under the file name of something
kept. -/
def isExempt (log : List Acceptance) (k : Kept) : Bool :=
  (latest? log k.fileName).any fun a => a.record.name = runRecordName

/-- The bytes that wait and do not come from the record about the run itself. -/
def ordinarySize (log : List Acceptance) (b : Buffer) : Nat :=
  ((b.pending.filter fun k => !isExempt log k).map Kept.size).sum

/-- What something kept counts against the bound. -/
def countedSize (log : List Acceptance) (k : Kept) : Nat := if isExempt log k then 0 else k.size

theorem countedSize_le (log : List Acceptance) (k : Kept) : countedSize log k ≤ k.size := by
  unfold countedSize
  split
  · exact Nat.zero_le _
  · exact Nat.le_refl _

theorem ordinarySize_eq (log : List Acceptance) (b : Buffer) :
    ordinarySize log b = total (countedSize log) b.kept := by
  have each : ∀ kept : List (String × Kept),
      ((((kept.map (·.2)).filter Kept.isPending).filter fun k =>
          !isExempt log k).map Kept.size).sum =
        total (countedSize log) kept := by
    intro kept
    induction kept with
    | nil => rfl
    | cons p rest ih =>
      have first : total (countedSize log) (p :: rest) =
          countedSize log p.2 + total (countedSize log) rest := rfl
      rw [first, ← ih, List.map_cons]
      by_cases waits : p.2.isPending = true
      · rw [List.filter_cons_of_pos waits]
        by_cases exempt : isExempt log p.2 = true
        · simp [countedSize, exempt]
        · simp [countedSize, exempt]
      · have nothing : countedSize log p.2 = 0 := by
          have idle : p.2.data = none := by simpa [Kept.isPending] using waits
          have empty : p.2.size = 0 := by simp [Kept.size, idle]
          exact Nat.le_zero.mp (empty ▸ countedSize_le log p.2)
        rw [List.filter_cons_of_neg waits, nothing, Nat.zero_add]
  exact each b.kept

theorem ordinarySize_le_size {b : Buffer} (sound : b.Sound) (log : List Acceptance) :
    ordinarySize log b ≤ b.size := by
  rw [ordinarySize_eq, sound.exact]
  exact total_le_total fun p _ => countedSize_le log p.2

/-- A record keeps the other records within the bound: one of them is taken only if all bytes fit,
and the record about the run itself adds none of theirs. -/
theorem ordinarySize_record {log : List Acceptance} {b : Buffer} (sound : b.Sound) {bounds : Bounds}
    (within : ordinarySize log b ≤ bounds.archive) (now : Instant) (call : Nat) (r : Record) :
    ordinarySize (noted call r (b.record bounds now r).1 log) (b.record bounds now r).2 ≤
      bounds.archive := by
  have after := record_sound sound bounds now r
  rcases record_cases bounds now r b with ⟨refused, same⟩ |
    ⟨data, fingerprint, _, accepted, fits, taken⟩
  · rw [noted_of_refused refused, same]
    exact within
  · rw [noted_of_accepted accepted]
    rcases fits with exempt | fits
    · rw [taken, ordinarySize_eq]
      rw [ordinarySize_eq] at within
      have hidden : ∀ k : Kept, k.fileName = r.fileName → countedSize (⟨call, r⟩ :: log) k = 0 := by
        intro k here
        simp [countedSize, isExempt, latest?_cons, here, exempt]
      have less : ∀ p ∈ b.kept, countedSize (⟨call, r⟩ :: log) p.2 ≤ countedSize log p.2 := by
        intro p _
        by_cases here : p.2.fileName = r.fileName
        · rw [hidden p.2 here]
          exact Nat.zero_le _
        · have older : latest? (⟨call, r⟩ :: log) p.2.fileName = latest? log p.2.fileName := by
            rw [latest?_cons, if_neg (Ne.symm here)]
          rw [countedSize, countedSize, isExempt, isExempt, older]
      have balance := total_insert (countedSize (⟨call, r⟩ :: log)) sound.ascending r.fileName
        ⟨r.fileName, fingerprint, r.capturedAt.getD now, some data⟩
      rw [hidden _ rfl] at balance
      have bound := total_le_total less
      dsimp only
      omega
    · refine (ordinarySize_le_size after _).trans ?_
      rw [taken]
      exact fits

theorem ordinarySize_clear {b : Buffer} (sound : b.Sound) (log : List Acceptance)
    (written : List Kept) :
    ordinarySize log (b.clear written) ≤ ordinarySize log b := by
  have shrinks : ∀ p : String × Kept, countedSize log (cleared written p.1 p.2) ≤
      countedSize log p.2 := by
    intro p
    unfold cleared
    split
    · have empty : countedSize log p.2.settled ≤ 0 := countedSize_le log p.2.settled
      exact empty.trans (Nat.zero_le _)
    · exact Nat.le_refl _
  rw [ordinarySize_eq, ordinarySize_eq]
  simp only [clear]
  rw [clearAll_kept sound.ascending]
  exact total_mapValues_le fun p _ => shrinks p

theorem record_run {r : Record} (named : r.name = runRecordName) {content : Bytes × String}
    (marshalled : r.marshal = .ok content) (bounds : Bounds) (now : Instant) (b : Buffer) :
    ∃ warnings, (b.record bounds now r).1.result = .ok warnings := by
  obtain ⟨data, fingerprint⟩ := content
  simp only [record, marshalled]
  split
  · exact ⟨[], rfl⟩
  · simp only [accept, named, ne_eq, not_true_eq_false, false_and, ↓reduceIte]
    exact ⟨_, rfl⟩

theorem record_error {bounds : Bounds} {now : Instant} {r : Record} {b : Buffer} {e : GatherError}
    (refused : (b.record bounds now r).1.result = .error e) : (b.record bounds now r).2 = b ∧
      (r.marshal = .error e ∨ ∃ data fingerprint, r.marshal = .ok (data, fingerprint) ∧
        r.name ≠ runRecordName ∧
        bounds.archive < b.size - b.replacedSize r.fileName + data.length) := by
  unfold record at refused ⊢
  cases marshalled : r.marshal with
  | error cause =>
    rw [marshalled] at refused
    exact ⟨rfl, Or.inl (congrArg Except.error (Except.error.inj refused))⟩
  | ok content =>
    obtain ⟨data, fingerprint⟩ := content
    rw [marshalled] at refused
    dsimp only at refused ⊢
    split at refused
    · cases refused
    · rename_i fresh
      rw [if_neg fresh]
      unfold accept at refused ⊢
      dsimp only at refused ⊢
      split at refused
      · rename_i exceeds
        rw [if_pos exceeds]
        exact ⟨rfl, Or.inr ⟨data, fingerprint, rfl, exceeds⟩⟩
      · cases refused

end Buffer

theorem Session.bounds_step (s : Session) (e : Step) :
    (s.step e).recorder.bounds = s.recorder.bounds := by
  cases e with
  | record now r => rfl
  | snapshot => rfl
  | write i w now =>
    simp only [step]
    rcases write_cases i w now s with same | ⟨_, _, _, ended | ⟨_, _, done⟩⟩
    · rw [same]
    · rw [ended]
    · rw [done]
  | clear i =>
    simp only [step]
    rcases clear_cases i s with same | ⟨_, _, cleared⟩
    · rw [same]
    · rw [cleared]
      rfl
  | outside storage => rfl

/-- A shared recorder with the number of the steps that were taken and the records that were
accepted. -/
structure Account where
  session : Session
  steps : Nat
  log : List Acceptance

namespace Account

def start (bounds : Bounds) (interval : Nat) (storage : Option Directory) : Account :=
  ⟨Session.start bounds interval storage, 0, []⟩

def step (a : Account) (e : Step) : Account where
  session := a.session.step e
  steps := a.steps + 1
  log := match e with
    | .record now r =>
        noted a.steps r (a.session.buffer.record a.session.recorder.bounds now r).1 a.log
    | _ => a.log

def run (a : Account) (steps : List Step) : Account := steps.foldl step a

theorem session_run (a : Account) (steps : List Step) :
    (a.run steps).session = a.session.run steps := by
  induction steps generalizing a with
  | nil => rfl
  | cons e rest ih => exact ih (a.step e)

/-- Each kept record has its acceptance, and the bound holds for the records that it is meant
for. -/
structure Bounded (bounds : Bounds) (a : Account) : Prop where
  authored : Buffer.Authored a.log a.session.buffer
  bounds_eq : a.session.recorder.bounds = bounds
  within : Buffer.ordinarySize a.log a.session.buffer ≤ bounds.archive

theorem start_bounded (bounds : Bounds) (interval : Nat) (storage : Option Directory) :
    (start bounds interval storage).Bounded bounds :=
  ⟨Buffer.empty_authored, rfl, Nat.zero_le _⟩

theorem step_bounded {bounds : Bounds} {a : Account} (bounded : a.Bounded bounds) (e : Step) :
    (a.step e).Bounded bounds := by
  obtain ⟨authored, rfl, within⟩ := bounded
  have kept : (a.step e).session.recorder.bounds = a.session.recorder.bounds :=
    Session.bounds_step a.session e
  cases e with
  | record now r =>
    exact ⟨Buffer.record_authored authored _ now a.steps r, kept,
      Buffer.ordinarySize_record authored.sound within now a.steps r⟩
  | snapshot => exact ⟨authored, kept, within⟩
  | write i w now =>
    have same : (a.step (.write i w now)).session.buffer = a.session.buffer :=
      Session.buffer_write i w now a.session
    exact ⟨same.symm ▸ authored, kept, same.symm ▸ within⟩
  | clear i =>
    rcases Session.clear_cases i a.session with same | ⟨snapshot, _, cleared⟩
    · have same : (a.step (.clear i)).session.buffer = a.session.buffer :=
        congrArg Session.buffer same
      exact ⟨same.symm ▸ authored, kept, same.symm ▸ within⟩
    · have after : (a.step (.clear i)).session.buffer = a.session.buffer.clear snapshot :=
        congrArg Session.buffer cleared
      refine ⟨after.symm ▸ Buffer.clear_authored authored snapshot, kept, ?_⟩
      rw [after]
      exact (Buffer.ordinarySize_clear authored.sound a.log snapshot).trans within
  | outside storage => exact ⟨authored, kept, within⟩

theorem run_bounded {bounds : Bounds} {a : Account} (bounded : a.Bounded bounds)
    (steps : List Step) :
    (a.run steps).Bounded bounds := by
  induction steps generalizing a with
  | nil => exact bounded
  | cons e rest ih => exact ih (step_bounded bounded e)

/-- In every state that a run can reach, whatever waits comes from the record that was accepted last
under its file name, and what comes from other records than the one about the run itself is within
the bound. That one is taken whenever it has bytes. A record is refused only if it has no bytes or
would not fit, and then all that is kept stays as it is, also what it would have replaced. -/
theorem limit_in_every_run (bounds : Bounds) (interval : Nat) (storage : Option Directory)
    (steps : List Step) :
    let s := (Session.start bounds interval storage).run steps
    let log := ((start bounds interval storage).run steps).log
    (∀ k ∈ s.buffer.pending, ∃ a data, latest? log k.fileName = some a ∧ k.data = some data ∧
      a.record.marshal = .ok (data, k.fingerprint)) ∧
    Buffer.ordinarySize log s.buffer ≤ bounds.archive ∧
    (∀ now r, r.name = Buffer.runRecordName → (∃ content, r.marshal = .ok content) →
      ∃ warnings, (s.recorder.record now r).1 = .ok warnings) ∧
    ∀ now r e, (s.recorder.record now r).1 = .error e →
      (s.recorder.record now r).2.buffer = s.buffer ∧
      (r.marshal = .error e ∨ ∃ data fingerprint, r.marshal = .ok (data, fingerprint) ∧
        r.name ≠ Buffer.runRecordName ∧
        bounds.archive < s.buffer.size - s.buffer.replacedSize r.fileName + data.length) := by
  intro s log
  have bounded := run_bounded (start_bounded bounds interval storage) steps
  have onSession : ((start bounds interval storage).run steps).session = s := session_run _ steps
  obtain ⟨authored, kept, within⟩ := bounded
  rw [onSession] at authored kept within
  refine ⟨?_, within, ?_, ?_⟩
  · intro k waits
    obtain ⟨found, pending⟩ := (Buffer.mem_pending_iff authored.sound).mp waits
    obtain ⟨a, latest, comes⟩ := authored.latest_of_kept found
    obtain ⟨data, present⟩ := Option.isSome_iff_exists.mp pending
    refine ⟨a, data, latest, present, ?_⟩
    rw [comes.marked, comes.bytes data present]
    exact comes.readable
  · rintro now r named ⟨content, marshalled⟩
    exact Buffer.record_run named marshalled s.recorder.bounds now s.buffer
  · intro now r e refused
    rw [← kept]
    exact Buffer.record_error refused

def overfull : List Step :=
  [.record ⟨10, 0⟩ ⟨"version", .raw [1, 2], none, "a"⟩,
    .record ⟨11, 0⟩ ⟨Buffer.runRecordName, .raw [3, 4, 5, 6, 7], none, "b"⟩]

theorem overfull_within_limit :
    let s := (Session.start ⟨3, 100⟩ 60 none).run overfull
    let more : Record := ⟨"nodes", .raw [8], none, "c"⟩
    s.buffer.size = 7 ∧
      Buffer.ordinarySize ((start ⟨3, 100⟩ 60 none).run overfull).log s.buffer ≤ 3 ∧
      (∃ e, (s.recorder.record ⟨12, 0⟩ more).1 = .error e) ∧
      (s.recorder.record ⟨12, 0⟩ more).2.buffer = s.buffer := by
  intro s more
  obtain ⟨_, within, _, refused⟩ := limit_in_every_run ⟨3, 100⟩ 60 none overfull
  have error : ∃ e, (s.recorder.record ⟨12, 0⟩ more).1 = .error e := by
    have large : (s.buffer.record s.recorder.bounds ⟨12, 0⟩ more).1 =
        .tooLarge "nodes" 1 3 := by decide
    exact ⟨_, congrArg Reception.result large⟩
  obtain ⟨e, outcome⟩ := error
  exact ⟨by decide, within, ⟨e, outcome⟩, (refused ⟨12, 0⟩ more e outcome).1⟩

end Account

end ClusterSurvey.Recording
