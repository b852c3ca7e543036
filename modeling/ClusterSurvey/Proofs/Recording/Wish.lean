import ClusterSurvey.Proofs.Recording.Loop

/-!
No wish for a flush is lost while the loop runs. A call asks for a flush only after it has entered
its record, and asking again adds nothing; the loop takes the mark away before it takes its
snapshot. So there is the mark, or the loop is between hearing and its snapshot, or it took a
snapshot since the record was entered.
-/
namespace ClusterSurvey.Recording

theorem Buffer.record_asks (bounds : Bounds) (now : Instant) (r : Record) (b : Buffer) :
    (b.record bounds now r).1.asksForFlush = true ↔
      ((b.record bounds now r).1.isAccepted = true ∧
        bounds.flush < (b.record bounds now r).2.size) ∨
        ∃ fileName size bound, (b.record bounds now r).1 = .tooLarge fileName size bound := by
  unfold record
  split
  · simp [Reception.asksForFlush, Reception.isAccepted]
  · dsimp only
    split
    · simp [Reception.asksForFlush, Reception.isAccepted]
    · unfold accept
      dsimp only
      split
      · simp [Reception.asksForFlush]
      · simp [Reception.asksForFlush, Reception.isAccepted]

/-- The record was taken and left more bytes than should wait, or it was refused because it did not
fit. -/
def Delivery.Overfull (bounds : Bounds) (d : Delivery) : Prop :=
  (d.reception.isAccepted = true ∧ bounds.flush < d.size) ∨
    ∃ fileName size bound, d.reception = .tooLarge fileName size bound

namespace Loop

/-- A flush after a call is certain: the mark is there, or it was heard and the snapshot is still to
come, or a snapshot was taken since. -/
def Heeds (l : Loop) (d : Delivery) : Prop :=
  l.recorder.flushWanted = true ∨ (∃ p, l.stage = .begun p true) ∨ d.snapshots < l.snapshots

structure Attentive (bounds : Bounds) (l : Loop) : Prop where
  bounds_eq : l.recorder.bounds = bounds
  asks : ∀ d ∈ l.deliveries, d.Overfull bounds → d.reception.asksForFlush = true
  past : ∀ d ∈ l.deliveries, d.snapshots ≤ l.snapshots
  heeded : l.stage ≠ .returned → ∀ d ∈ l.deliveries, d.completed = true →
    d.reception.asksForFlush = true → l.Heeds d

theorem start_attentive (bounds : Bounds) (interval : Nat) (storage : Option Directory) :
    (start bounds interval storage).Attentive bounds where
  bounds_eq := rfl
  asks := by simp [start]
  past := by simp [start]
  heeded := by simp [start]

theorem Attentive.keep {bounds : Bounds} {l l' : Loop} (attentive : l.Attentive bounds)
    (same : l'.recorder.bounds = l.recorder.bounds) (deliveries : l'.deliveries = l.deliveries)
    (snapshots : l'.snapshots = l.snapshots)
    (mark : l'.recorder.flushWanted = l.recorder.flushWanted)
    (stage : l'.stage = l.stage ∨ l.stage ≠ .returned ∧ ∀ p, l.stage ≠ .begun p true) :
    l'.Attentive bounds := by
  obtain ⟨bounds_eq, asks, past, heeded⟩ := attentive
  refine ⟨same.trans bounds_eq, deliveries ▸ asks, by rw [deliveries, snapshots]; exact past, ?_⟩
  rw [deliveries]
  unfold Heeds
  rw [mark, snapshots]
  intro running d member completed asking
  rcases stage with unmoved | ⟨ran, unheard⟩
  · rw [unmoved] at running ⊢
    exact heeded running d member completed asking
  · rcases heeded ran d member completed asking with wanted | ⟨p, heard⟩ | since
    · exact Or.inl wanted
    · exact absurd heard (unheard p)
    · exact Or.inr (Or.inr since)

theorem enter_attentive {bounds : Bounds} {l : Loop} (attentive : l.Attentive bounds)
    (now : Instant) (r : Record) :
    (l.enter now r).Attentive bounds := by
  obtain ⟨rfl, asks, past, heeded⟩ := attentive
  constructor
  · rfl
  · intro d member overfull
    rcases List.mem_append.mp member with old | new
    · exact asks d old overfull
    · rw [List.mem_singleton.mp new] at overfull ⊢
      exact (Buffer.record_asks _ _ _ _).mpr overfull
  · intro d member
    rcases List.mem_append.mp member with old | new
    · exact past d old
    · rw [List.mem_singleton.mp new]
      exact Nat.le_refl _
  · intro running d member completed
    rcases List.mem_append.mp member with old | new
    · exact heeded running d old completed
    · rw [List.mem_singleton.mp new] at completed
      cases completed

theorem finish_attentive {bounds : Bounds} {l : Loop} (attentive : l.Attentive bounds)
    {call : Nat} {d : Delivery} (found : l.deliveries[call]? = some d) :
    Attentive bounds { l with
      recorder :=
  if d.reception.asksForFlush && l.stage ≠ .returned then l.recorder.askForFlush else l.recorder
      deliveries := l.deliveries.set call { d with completed := true } } := by
  obtain ⟨rfl, asks, past, heeded⟩ := attentive
  have here := List.mem_of_getElem? found
  constructor
  · dsimp only
    split <;> rfl
  · intro e member
    rcases List.mem_or_eq_of_mem_set member with old | new
    · exact asks e old
    · rw [new]
      exact asks d here
  · intro e member
    rcases List.mem_or_eq_of_mem_set member with old | new
    · exact past e old
    · rw [new]
      exact past d here
  · intro running e member completed asking
    have running : l.stage ≠ .returned := running
    by_cases asked : d.reception.asksForFlush = true
    · left
      simp [asked, running, Recorder.askForFlush]
    · rcases List.mem_or_eq_of_mem_set member with old | new
      · have heeds := heeded running e old completed asking
        simp only [asked]
        exact heeds
      · rw [new] at asking
        exact absurd asking asked

theorem hear_attentive {bounds : Bounds} {l : Loop} (attentive : l.Attentive bounds) :
    Attentive bounds { l with
      stage := .begun (.round waits) true
      recorder := { l.recorder with flushWanted := false } } where
  bounds_eq := attentive.bounds_eq
  asks := attentive.asks
  past := attentive.past
  heeded _ _ _ _ _ := Or.inr (Or.inl ⟨_, rfl⟩)

theorem snapshot_attentive {bounds : Bounds} {l : Loop}
    (attentive : l.Attentive bounds) (p : Purpose) :
    Attentive bounds { l with
      stage := .taken p l.buffer.pending, snapshots := l.snapshots + 1 } where
  bounds_eq := attentive.bounds_eq
  asks := attentive.asks
  past d member := Nat.le_succ_of_le (attentive.past d member)
  heeded _ d member _ _ := Or.inr (Or.inr (Nat.lt_succ_of_le (attentive.past d member)))

theorem change_attentive {bounds : Bounds} {l l' : Loop} {e : Event}
    (attentive : l.Attentive bounds) (change : l.Change e l') : l'.Attentive bounds := by
  cases change with
  | enter now r => exact enter_attentive attentive now r
  | finish found => exact finish_attentive attentive found
  | cancel => exact attentive.keep rfl rfl rfl rfl (Or.inl rfl)
  | tick here => exact attentive.keep rfl rfl rfl rfl (Or.inr (by simp [here]))
  | hear => exact hear_attentive attentive
  | @snapshot p => exact snapshot_attentive attentive p
  | unwritten here => exact attentive.keep rfl rfl rfl rfl (Or.inr (by simp [here]))
  | written here => exact attentive.keep rfl rfl rfl rfl (Or.inr (by simp [here]))
  | clear here => exact attentive.keep rfl rfl rfl rfl (Or.inr (by simp [here]))
  | wake here => exact attentive.keep rfl rfl rfl rfl (Or.inr (by simp [here]))
  | giveUp here => exact attentive.keep rfl rfl rfl rfl (Or.inr (by simp [here]))
  | leave here => exact attentive.keep rfl rfl rfl rfl (Or.inr (by simp [here]))
  | outside storage => exact attentive.keep rfl rfl rfl rfl (Or.inl rfl)

/-- In every state that the calls and the running loop can reach, in whatever order their steps
come, a call that is completed and left too many bytes, or was refused for the size, is followed by
a flush: the mark is there, or the loop heard of it and is about to take its snapshot, or it took a
snapshot after the record was entered or refused. -/
theorem no_wish_is_lost (bounds : Bounds) (interval : Nat) (storage : Option Directory)
    (events : List Event) :
    let l := (start bounds interval storage).run events
    l.stage ≠ .returned → ∀ d ∈ l.deliveries, d.completed = true → d.Overfull bounds →
      l.recorder.flushWanted = true ∨ (∃ p, l.stage = .begun p true) ∨
        d.snapshots < l.snapshots := by
  intro l running d member completed overfull
  have attentive : l.Attentive bounds :=
    run_invariant change_attentive (start_attentive bounds interval storage) events
  exact attentive.heeded running d member completed (attentive.asks d member overfull)

/-- A record enters after the loop has heard of another one, and one that does not fit after its
snapshot. -/
def overtaken : List Event :=
  [.enter ⟨10, 0⟩ ⟨"nodes", .raw [1, 2], none, "a"⟩, .finish 0, .hear,
    .enter ⟨11, 0⟩ ⟨"pods", .raw [3, 4], none, "b"⟩, .snapshot,
    .enter ⟨12, 0⟩ ⟨"events", .raw [5], none, "c"⟩, .finish 2]

theorem overtaken_heeded :
    let l := (start ⟨4, 1⟩ 60 (some .empty)).run overtaken
    let d : Delivery := ⟨.tooLarge "events" 1 4, 4, 1, true⟩
    l.stage ≠ .returned ∧ d ∈ l.deliveries ∧ d.Overfull ⟨4, 1⟩ ∧
      (l.recorder.flushWanted = true ∨ (∃ p, l.stage = .begun p true) ∨ d.snapshots < l.snapshots) ∧
      l.snapshots = d.snapshots := by
  intro l d
  have running : l.stage ≠ .returned := by decide
  have member : d ∈ l.deliveries := by decide
  have overfull : d.Overfull ⟨4, 1⟩ := Or.inr ⟨_, _, _, rfl⟩
  exact ⟨running, member, overfull,
    no_wish_is_lost ⟨4, 1⟩ 60 (some .empty) overtaken running d member rfl overfull,
    by decide⟩

end Loop

end ClusterSurvey.Recording
