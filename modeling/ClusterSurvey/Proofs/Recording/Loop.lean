import ClusterSurvey.Proofs.Recording.Session
import ClusterSurvey.Recording.Schedule

/-!
The loop of flushes, beside calls that bring records. A call enters its record under the lock and
leaves the mark that a flush is wanted afterwards, if it has to. The loop waits for a tick or for
that mark, takes a snapshot, writes it, clears it, and pauses before the next attempt if that
failed; when it was cancelled it flushes once more and returns. Calls, the cancellation and whoever
else changes the directory may come between any two steps. A step of the loop that is not at that
point does nothing. Rounds on a clock are runs of these steps.
-/
namespace ClusterSurvey.Recording

namespace Recorder

def enter (now : Instant) (r : Record) (s : Recorder) : Reception × Recorder :=
  let (reception, buffer) := s.buffer.record s.bounds now r
  (reception, { s with buffer })

def askForFlush (s : Recorder) : Recorder := { s with flushWanted := true }

theorem record_eq (now : Instant) (r : Record) (s : Recorder) : s.record now r =
    ((s.enter now r).1.result,
      if (s.enter now r).1.asksForFlush then (s.enter now r).2.askForFlush
        else (s.enter now r).2) := by
  unfold record enter
  dsimp only
  cases asks : (s.buffer.record s.bounds now r).1.asksForFlush with
  | true => simp [askForFlush]
  | false => simp

theorem write_uncancelled {w : Circumstances} (never : ∀ i, w.cancelled i = false) (now : Instant)
    (snapshot : List Kept) (s : Recorder) : (s.write w now snapshot).1 ≠ .error .cancelled := by
  unfold write
  cases newest? snapshot with
  | none => simp
  | some newest =>
    dsimp only
    have planned := entriesOf_uncancelled never 0 snapshot
    have outcome : (writeArchive w now (archiveName newest) snapshot s.storage).1 ≠
        .error .cancelled := by
      cases s.storage with
      | none => simp [writeArchive, uncreated]
      | some d =>
        cases taken : d.get? (archiveName newest) with
        | some node =>
          rw [writeArchive_taken (by rw [taken]; rfl)]
          simp
        | none =>
          cases created : w.creationFailure with
          | some text => simp [writeArchive, taken, created, uncreated]
          | none =>
            obtain ⟨left, written⟩ := writeArchive_free taken created now snapshot
            rw [written]
            cases entries : entriesOf w 0 snapshot with
            | error e => simpa [entries] using planned
            | ok entries => simp
    cases result : (writeArchive w now (archiveName newest) snapshot s.storage).1 with
    | error e =>
      rw [result] at outcome
      simpa [Except.map] using outcome
    | ok done => simp [Except.map]

theorem flush_uncancelled {w : Circumstances} (never : ∀ i, w.cancelled i = false) (now : Instant)
    (s : Recorder) : (s.flush w now).1 ≠ .error .cancelled := by
  have written := write_uncancelled never now s.buffer.pending s
  unfold flush
  dsimp only
  split
  · simp
  · rename_i outcome
    rw [outcome] at written
    exact written

end Recorder

inductive Purpose where
  | round (left : List Nat)
  | ending
  deriving DecidableEq, Repr

/-- Where the loop stands. A flush that begins may do so because the loop heard that one is
wanted. -/
inductive Stage where
  | waiting
  | begun (p : Purpose) (heard : Bool)
  | taken (p : Purpose) (snapshot : List Kept)
  | written (p : Purpose) (snapshot : List Kept) (name : String)
  | pausing (left : List Nat)
  | returned
  deriving DecidableEq, Repr

def endedByCancellation : Except GatherError (Option String) → Bool
  | .error .cancelled => true
  | _ => false

def Purpose.next : Purpose → Except GatherError (Option String) → Stage
  | ending, _ => .returned
  | round (_ :: rest), .error _ => .pausing rest
  | round _, _ => .waiting

/-- What happens while a flush writes: the last one does not heed the cancellation. -/
def Purpose.heeded (cancelled : Bool) (w : Circumstances) : Purpose → Circumstances
  | ending => { w with cancelled := fun _ => false }
  | round _ => { w with cancelled := fun i => cancelled || w.cancelled i }

/-- A call that entered its record: what became of it, the bytes that waited then, and how many
snapshots the loop had taken. It is completed when it has asked for a flush, if it has to. -/
structure Delivery where
  reception : Reception
  size : Nat
  snapshots : Nat
  completed : Bool
  deriving DecidableEq, Repr

structure Conclusion where
  purpose : Purpose
  snapshot : List Kept
  result : Except GatherError (Option String)

/-- The loop and its recorder, with the entries of the archives that it completed. -/
structure Loop where
  recorder : Recorder
  stage : Stage
  cancelled : Bool
  deliveries : List Delivery
  snapshots : Nat
  conclusions : List Conclusion
  archives : List (List ArchiveEntry)

inductive Event where
  | enter (now : Instant) (r : Record)
  | finish (call : Nat)
  | cancel
  | tick
  | hear
  | snapshot
  | write (w : Circumstances) (now : Instant)
  | clear
  | wake
  | giveUp
  | leave
  | outside (storage : Option Directory)

namespace Loop

def start (bounds : Bounds) (interval : Nat) (storage : Option Directory) : Loop :=
  ⟨⟨bounds, interval, .empty, storage, false, true⟩, .waiting, false, [], 0, [], []⟩

def buffer (l : Loop) : Buffer := l.recorder.buffer

def enter (now : Instant) (r : Record) (l : Loop) : Loop :=
  let (reception, recorder) := l.recorder.enter now r
  { l with
    recorder
    deliveries := l.deliveries ++ [⟨reception, recorder.buffer.size, l.snapshots, false⟩] }

def finish (call : Nat) (l : Loop) : Loop :=
  match l.deliveries[call]? with
  | some ⟨reception, size, snapshots, false⟩ =>
    { l with
      recorder :=
        if reception.asksForFlush && l.stage ≠ .returned then l.recorder.askForFlush else l.recorder
      deliveries := l.deliveries.set call ⟨reception, size, snapshots, true⟩ }
  | _ => l

def tick (l : Loop) : Loop :=
  match l.stage with
  | .waiting => { l with stage := .begun (.round waits) false }
  | _ => l

def hear (l : Loop) : Loop :=
  match l.stage, l.recorder.flushWanted with
  | .waiting, true =>
    { l with
      stage := .begun (.round waits) true
      recorder := { l.recorder with flushWanted := false } }
  | _, _ => l

def snapshot (l : Loop) : Loop :=
  match l.stage with
  | .begun p _ => { l with stage := .taken p l.buffer.pending, snapshots := l.snapshots + 1 }
  | _ => l

def conclude (p : Purpose) (snapshot : List Kept) (result : Except GatherError (Option String))
    (l : Loop) : Loop :=
  { l with stage := p.next result, conclusions := l.conclusions ++ [⟨p, snapshot, result⟩] }

def write (w : Circumstances) (now : Instant) (l : Loop) : Loop :=
  match l.stage with
  | .taken p snapshot =>
    match l.recorder.write (p.heeded l.cancelled w) now snapshot with
    | (.ok (some name), recorder) =>
      { l with
        recorder
        stage := .written p snapshot name
        archives := l.archives ++ (recorder.archive? name).toList }
    | (result, recorder) =>
      ({ l with recorder, cancelled := l.cancelled || endedByCancellation result }).conclude
        p snapshot result
  | _ => l

def clear (l : Loop) : Loop :=
  match l.stage with
  | .written p snapshot name =>
    ({ l with recorder := l.recorder.clear snapshot }).conclude p snapshot (.ok (some name))
  | _ => l

def wake (l : Loop) : Loop :=
  match l.stage with
  | .pausing left => { l with stage := .begun (.round left) false }
  | _ => l

def giveUp (l : Loop) : Loop :=
  match l.stage, l.cancelled with
  | .pausing _, true => { l with stage := .waiting }
  | _, _ => l

def leave (l : Loop) : Loop :=
  match l.stage, l.cancelled with
  | .waiting, true => { l with stage := .begun .ending false }
  | _, _ => l

def step (l : Loop) : Event → Loop
  | .enter now r => l.enter now r
  | .finish call => l.finish call
  | .cancel => { l with cancelled := true }
  | .tick => l.tick
  | .hear => l.hear
  | .snapshot => l.snapshot
  | .write w now => l.write w now
  | .clear => l.clear
  | .wake => l.wake
  | .giveUp => l.giveUp
  | .leave => l.leave
  | .outside storage => { l with recorder := { l.recorder with storage } }

def run (l : Loop) (events : List Event) : Loop := events.foldl step l

theorem run_append (l : Loop) (before after : List Event) :
    l.run (before ++ after) = (l.run before).run after :=
  List.foldl_append

theorem run_cons (l : Loop) (e : Event) (rest : List Event) :
    l.run (e :: rest) = (l.step e).run rest := rfl

/-- What an event changes, if it changes anything. -/
inductive Change (l : Loop) : Event → Loop → Prop where
  | enter (now : Instant) (r : Record) : Change l (.enter now r) (l.enter now r)
  | finish {call : Nat} {d : Delivery} (found : l.deliveries[call]? = some d)
      (incomplete : d.completed = false) :
    Change l (.finish call) { l with
      recorder := if d.reception.asksForFlush && l.stage ≠ .returned then
        l.recorder.askForFlush else l.recorder
      deliveries := l.deliveries.set call { d with completed := true } }
  | cancel : Change l .cancel { l with cancelled := true }
  | tick (here : l.stage = .waiting) :
      Change l .tick { l with stage := .begun (.round waits) false }
  | hear (here : l.stage = .waiting) (wanted : l.recorder.flushWanted = true) :
    Change l .hear { l with
      stage := .begun (.round waits) true
      recorder := { l.recorder with flushWanted := false } }
  | snapshot {p : Purpose} {heard : Bool} (here : l.stage = .begun p heard) :
    Change l .snapshot { l with stage := .taken p l.buffer.pending, snapshots := l.snapshots + 1 }
  | unwritten {p : Purpose} {snapshot : List Kept}
      (here : l.stage = .taken p snapshot) {w : Circumstances}
    {now : Instant} {result : Except GatherError (Option String)} {storage : Option Directory}
    (outcome : l.recorder.write (p.heeded l.cancelled w) now snapshot =
        (result, { l.recorder with storage }))
    (none : ∀ name, result ≠ .ok (some name)) :
    Change l (.write w now) (conclude p snapshot result { l with
      recorder := { l.recorder with storage }
      cancelled := l.cancelled || endedByCancellation result })
  | written {p : Purpose} {snapshot : List Kept}
      (here : l.stage = .taken p snapshot) {w : Circumstances}
    {entries : List ArchiveEntry}
      (planned : entriesOf (p.heeded l.cancelled w) 0 snapshot = .ok entries)
    (now : Instant) (storage : Option Directory) (name : String) :
    Change l (.write w now) { l with
      recorder := { l.recorder with storage }
      stage := .written p snapshot name
      archives := l.archives ++ [entries] }
  | clear {p : Purpose} {snapshot : List Kept} {name : String}
      (here : l.stage = .written p snapshot name) :
    Change l .clear (conclude p snapshot
      (.ok (some name)) { l with recorder := l.recorder.clear snapshot })
  | wake {left : List Nat} (here : l.stage = .pausing left) :
    Change l .wake { l with stage := .begun (.round left) false }
  | giveUp {left : List Nat} (here : l.stage = .pausing left) :
      Change l .giveUp { l with stage := .waiting }
  | leave (here : l.stage = .waiting) (cancelled : l.cancelled = true) :
    Change l .leave { l with stage := .begun .ending false }
  | outside (storage : Option Directory) :
    Change l (.outside storage) { l with recorder := { l.recorder with storage } }

theorem write_change (w : Circumstances) (now : Instant) (l : Loop) :
    l.write w now = l ∨ l.Change (.write w now) (l.write w now) := by
  unfold write
  split
  · rename_i p snapshot here
    right
    rcases Recorder.write_cases (p.heeded l.cancelled w) now snapshot l.recorder with
      ⟨result, storage, outcome, none⟩ | ⟨name, d, entries, planned, outcome⟩
    · have change := Change.unwritten here outcome none
      rw [outcome]
      split
      · rename_i name recorder same
        exact absurd (Prod.mk.inj same).1 (none name)
      · rename_i other recorder _ same
        rw [← (Prod.mk.inj same).1, ← (Prod.mk.inj same).2]
        exact change
    · have change :=
        Change.written here planned now (some (d.set name (.file (.archive entries) now))) name
      rw [outcome]
      simp only [Recorder.archive?_set, Option.toList_some]
      exact change
  · exact Or.inl rfl

theorem step_cases (l : Loop) (e : Event) : l.step e = l ∨ l.Change e (l.step e) := by
  cases e with
  | enter now r => exact Or.inr (.enter now r)
  | finish call =>
    simp only [step, finish]
    split
    · rename_i found
      exact Or.inr (.finish found rfl)
    · exact Or.inl rfl
  | cancel => exact Or.inr .cancel
  | tick =>
    simp only [step, tick]
    split
    · rename_i here
      exact Or.inr (.tick here)
    · exact Or.inl rfl
  | hear =>
    simp only [step, hear]
    split
    · rename_i here wanted
      exact Or.inr (.hear here wanted)
    · exact Or.inl rfl
  | snapshot =>
    simp only [step, snapshot]
    split
    · rename_i here
      exact Or.inr (.snapshot here)
    · exact Or.inl rfl
  | write w now => exact write_change w now l
  | clear =>
    simp only [step, clear]
    split
    · rename_i here
      exact Or.inr (.clear here)
    · exact Or.inl rfl
  | wake =>
    simp only [step, wake]
    split
    · rename_i here
      exact Or.inr (.wake here)
    · exact Or.inl rfl
  | giveUp =>
    simp only [step, giveUp]
    split
    · rename_i here _
      exact Or.inr (.giveUp here)
    · exact Or.inl rfl
  | leave =>
    simp only [step, leave]
    split
    · rename_i here cancelled
      exact Or.inr (.leave here cancelled)
    · exact Or.inl rfl
  | outside storage => exact Or.inr (.outside storage)

theorem run_invariant {P : Loop → Prop}
    (kept : ∀ {l l' : Loop} {e : Event}, P l → l.Change e l' → P l') {l : Loop} (holds : P l)
    (events : List Event) : P (l.run events) := by
  induction events generalizing l with
  | nil => exact holds
  | cons e rest ih =>
    apply ih
    rcases step_cases l e with same | change
    · rw [same]
      exact holds
    · exact kept holds change

theorem run_flush {l : Loop} {p : Purpose} {heard : Bool} (begun : l.stage = .begun p heard)
    (w : Circumstances) (now : Instant) :
    let flushed := l.recorder.flush (p.heeded l.cancelled w) now
    let after := l.run [.snapshot, .write w now, .clear]
    after.recorder = flushed.2 ∧ after.stage = p.next flushed.1 ∧
      after.cancelled = (l.cancelled || endedByCancellation flushed.1) := by
  intro flushed after
  have taken : l.snapshot =
      { l with stage := .taken p l.recorder.buffer.pending, snapshots := l.snapshots + 1 } := by
    simp only [snapshot, begun, buffer]
  have unfolded : after = (l.snapshot.write w now).clear := rfl
  have flushing : flushed = l.recorder.flush (p.heeded l.cancelled w) now := rfl
  unfold Recorder.flush at flushing
  rw [unfolded, taken]
  unfold write
  dsimp only at flushing ⊢
  cases outcome : l.recorder.write (p.heeded l.cancelled w) now l.recorder.buffer.pending with
  | mk result recorder =>
    rw [outcome] at flushing
    cases result with
    | error e =>
      rw [flushing]
      cases p with
      | ending => exact ⟨rfl, rfl, rfl⟩
      | round left => cases left <;> exact ⟨rfl, rfl, rfl⟩
    | ok found =>
      cases found with
      | none =>
        rw [flushing]
        cases p with
        | ending => exact ⟨rfl, rfl, rfl⟩
        | round left => cases left <;> exact ⟨rfl, rfl, rfl⟩
      | some name =>
        rw [flushing]
        exact ⟨rfl, rfl, (Bool.or_false _).symm⟩

end Loop

def Repetition.stage (r : Repetition) : Stage :=
  match r.retry with
  | none => .waiting
  | some (left, _) => .pausing left

/-- A loop that is where the rounds on a clock have come. -/
structure Loop.Follows (l : Loop) (t : Timeline) : Prop where
  recorder : l.recorder = t.recorder
  stage : l.stage = t.repetition.stage
  running : l.cancelled = false

namespace Loop

theorem Follows.record {l : Loop} {t : Timeline} (follows : l.Follows t)
    (now : Instant) (r : Record) :
    ∃ events, (l.run events).Follows { t with recorder := (t.recorder.record now r).2 } := by
  refine ⟨[.enter now r, .finish l.deliveries.length], ?_⟩
  have unreturned : l.stage ≠ .returned := by
    rw [follows.stage, Repetition.stage]
    split <;> simp
  rw [Recorder.record_eq, ← follows.recorder]
  simp only [run, List.foldl_cons, List.foldl_nil, step, enter, finish,
    List.getElem?_concat_length, unreturned, ne_eq, not_false_eq_true, decide_true, Bool.and_true]
  exact ⟨rfl, follows.stage, follows.running⟩

theorem next_round (r : Repetition) (left : List Nat) (time : Nat)
    (result : Except GatherError (Option String)) :
    (Purpose.round left).next result = (r.after left time (!result.toBool)).stage := by
  cases result with
  | error e => cases left <;> rfl
  | ok name => cases left <;> rfl

theorem follows_attempt {l : Loop} {left : List Nat} {heard : Bool}
    (begun : l.stage = .begun (.round left) heard) (running : l.cancelled = false) (t : Timeline)
    (now : Instant) (time : Nat) (r : Repetition) :
    let flushed := l.recorder.flush (.calm false) now
    (l.run [.snapshot, .write (.calm false) now, .clear]).Follows
      { t with
        repetition := r.after left time (!flushed.1.toBool)
        now := time
        recorder := flushed.2 } := by
  intro flushed
  obtain ⟨recorder, stage, cancelled⟩ := run_flush begun (.calm false) now
  have calm : (Purpose.round left).heeded l.cancelled (.calm false) = .calm false := by
    rw [running]
    rfl
  rw [calm] at recorder stage cancelled
  have uncancelled : endedByCancellation flushed.1 = false := by
    unfold endedByCancellation
    split
    · rename_i failed
      exact absurd failed (Recorder.flush_uncancelled (fun _ => rfl) now l.recorder)
    · rfl
  constructor
  · exact recorder
  · rw [stage]
    apply next_round
  · rw [cancelled, running, uncancelled]
    rfl

/-- A round on a clock, begun when it is due, is a run of the loop. -/
theorem Follows.round {l : Loop} {t : Timeline} (follows : l.Follows t) {now : Instant}
    (flushing : t.job = .flushing now) :
    ∃ events, (l.run events).Follows (t.round (t.repetition.due t.now t.wanted)) := by
  obtain ⟨job, repetition, clock, recorder⟩ := t
  obtain ⟨same, stage, running⟩ := follows
  dsimp only at flushing same stage ⊢
  subst flushing
  subst same
  have heeds : (Job.flushing now).heedsWishes = true := rfl
  have attempted :=
    fun {m : Loop} (heard : Bool) (begun : m.stage = .begun (.round repetition.waitsLeft) heard)
    (running : m.cancelled = false) (time : Nat) =>
    follows_attempt begun running ⟨.flushing now, repetition, clock, m.recorder⟩ now time
      (repetition.begin time)
  simp only [Timeline.round, Timeline.wanted, heeds, Bool.true_and]
  cases retry : repetition.retry with
  | some pause =>
    obtain ⟨left, time⟩ := pause
    have paused : l.stage = .pausing left := by rw [stage, Repetition.stage, retry]
    have left_eq : repetition.waitsLeft = left := by rw [Repetition.waitsLeft, retry]; rfl
    have woken : l.step .wake = { l with stage := .begun (.round left) false } := by
      simp only [step, wake, paused]
    have unwished : ∀ time, repetition.isWish time = false := by simp [Repetition.isWish, retry]
    refine ⟨[.wake, .snapshot, .write (.calm false) now, .clear], ?_⟩
    rw [run_cons, woken, unwished, if_neg Bool.false_ne_true]
    exact attempted (m := { l with stage := .begun (.round left) false }) false
      (by rw [left_eq]) running _
  | none =>
    have waiting : l.stage = .waiting := by rw [stage, Repetition.stage, retry]
    have left_eq : repetition.waitsLeft = waits := by rw [Repetition.waitsLeft, retry]; rfl
    have wish : ∀ time, repetition.isWish time = decide (time < repetition.tick) := by
      simp [Repetition.isWish, retry]
    by_cases hears : l.recorder.flushWanted = true ∧ clock < repetition.tick
    · have heard : l.step .hear = { l with
          stage := .begun (.round waits) true
          recorder :=
            { l.recorder with flushWanted := false } } := by
              simp only [step, hear, waiting, hears.1]
      have due : repetition.due clock l.recorder.flushWanted = clock := by
        simp [Repetition.due, retry, hears.1]
      refine ⟨[.hear, .snapshot, .write (.calm false) now, .clear], ?_⟩
      rw [run_cons, heard, due, wish, decide_eq_true hears.2, if_pos rfl]
      exact attempted (m := { l with
          stage := .begun (.round waits) true
          recorder :=
            { l.recorder with flushWanted := false } }) true (by rw [left_eq]) running clock
    · have ticked : l.step .tick = { l with stage := .begun (.round waits) false } := by
        simp only [step, tick, waiting]
      have late : ¬ repetition.due clock l.recorder.flushWanted < repetition.tick := by
        simp only [Repetition.due, retry]
        split
        · rename_i wanted
          exact fun early => hears ⟨wanted, early⟩
        · omega
      refine ⟨[.tick, .snapshot, .write (.calm false) now, .clear], ?_⟩
      rw [run_cons, ticked, wish, decide_eq_false late, if_neg Bool.false_ne_true]
      exact attempted (m := { l with stage := .begun (.round waits) false }) false
        (by rw [left_eq]) running _

theorem Follows.run {l : Loop} {t : Timeline} (follows : l.Follows t) {now : Instant}
    (flushing : t.job = .flushing now) (fuel goal : Nat) :
    ∃ events, (l.run events).Follows (t.run fuel goal) := by
  induction fuel generalizing l t with
  | zero => exact ⟨[], follows.recorder, follows.stage, follows.running⟩
  | succ fuel ih =>
    rw [Timeline.run]
    split
    · exact ⟨[], follows.recorder, follows.stage, follows.running⟩
    · obtain ⟨first, there⟩ := follows.round flushing
      obtain ⟨later, onwards⟩ := ih there flushing
      exact ⟨first ++ later, run_append l first later ▸ onwards⟩

theorem Follows.advance {l : Loop} {t : Timeline} (follows : l.Follows t) {now : Instant}
    (flushing : t.job = .flushing now) (goal : Nat) :
    ∃ events, (l.run events).Follows (t.advance goal) := by
  unfold Timeline.advance
  split
  · exact ⟨[], follows⟩
  · exact follows.run flushing _ goal

theorem Follows.shutDown {l : Loop} {t : Timeline} (follows : l.Follows t) (now : Instant) :
    ∃ events, (l.run events).recorder = t.recorder.shutDown now ∧
      (l.run events).stage = .returned := by
  have waiting : ∃ events, (l.run events).recorder = t.recorder ∧ (l.run events).stage = .waiting ∧
      (l.run events).cancelled = true := by
    cases retry : t.repetition.retry with
    | none =>
      have here : l.stage = .waiting := by rw [follows.stage, Repetition.stage, retry]
      exact ⟨[.cancel], follows.recorder, here, rfl⟩
    | some pause =>
      obtain ⟨left, time⟩ := pause
      have here : l.stage = .pausing left := by rw [follows.stage, Repetition.stage, retry]
      have cut : l.run [.cancel, .giveUp] = { l with stage := .waiting, cancelled := true } := by
        simp only [Loop.run, List.foldl_cons, List.foldl_nil, step, giveUp, here]
      exact ⟨[.cancel, .giveUp], by rw [cut]; exact follows.recorder, by rw [cut], by rw [cut]⟩
  obtain ⟨events, recorder, here, cancelled⟩ := waiting
  have left : (l.run events).leave = { l.run events with stage := .begun .ending false } := by
    simp only [leave, here, cancelled]
  obtain ⟨flushed, stage, _⟩ :=
    run_flush (l := { l.run events with stage := .begun .ending false }) rfl (.calm false) now
  refine ⟨events ++ [.leave, .snapshot, .write (.calm false) now, .clear], ?_⟩
  rw [run_append, run_cons]
  change (((l.run events).leave.run _).recorder = _ ∧ ((l.run events).leave.run _).stage = _)
  rw [left, flushed, stage, recorder]
  exact ⟨rfl, rfl⟩

end Loop

end ClusterSurvey.Recording
