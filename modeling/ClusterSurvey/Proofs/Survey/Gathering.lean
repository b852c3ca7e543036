import ClusterSurvey.Survey.Output
import Mathlib.Data.List.Forall2

/-!
What a gathering comes to, step by step, and what it can give. Its calls may be answered differently
each time, so a gathering gives a value if it does so from some state of the client; what steps one
after the other give is then told by what each of them can give.
-/
namespace ClusterSurvey.Gather

variable {σ α β : Type}

theorem run_state_bind {x : StateM σ α} {s t : σ} {a : α} (run : x.run s = (a, t))
    (f : α → StateM σ β) :
    (x >>= f).run s = (f a).run t := by
  rw [StateT.run_bind, run]
  rfl

theorem run_lift_bind (x : StateM σ α) (f : α → Gather σ β) (s : σ) :
    (liftM x >>= f : Gather σ β).run.run s = (f (x.run s).1).run.run (x.run s).2 := rfl

theorem run_call {x : StateM σ (Except ClusterError α)} {s t : σ} {a : α}
    (called : x.run s = (.ok a, t)) :
    (call x).run.run s = (.ok a, t) := by
  unfold call
  rw [run_lift_bind, called]
  rfl

theorem run_of_call {x : StateM σ (Except ClusterError α)} {s t : σ} {a : α}
    (run : (call x).run.run s = (.ok a, t)) :
    x.run s = (.ok a, t) := by
  unfold call at run
  rw [run_lift_bind] at run
  cases called : x.run s with
  | mk answer u =>
    rw [called] at run
    cases answer with
    | error e => cases run
    | ok b =>
      cases run
      rfl

theorem run_bind_of_ok {x : Gather σ α} {s t : σ} {a : α} (run : x.run.run s = (.ok a, t))
    (f : α → Gather σ β) :
    (x >>= f).run.run s = (f a).run.run t := by
  rw [ExceptT.run_bind, StateT.run_bind, run]
  rfl

/-- A value that a gathering comes to without a failure, from some state of the client. -/
def Gives (x : Gather σ α) (a : α) : Prop := ∃ s t, x.run.run s = (.ok a, t)

theorem gives_pure {a b : α} (given : (pure a : Gather σ α).Gives b) : b = a := by
  obtain ⟨s, t, run⟩ := given
  cases run
  rfl

theorem gives_throw {e : GatherError} {a : α} : ¬ (throw e : Gather σ α).Gives a := by
  rintro ⟨s, t, run⟩
  cases run

theorem run_bind_ok {x : Gather σ α} {f : α → Gather σ β} {s t : σ} {b : β}
    (run : (x >>= f).run.run s = (.ok b, t)) :
    ∃ a u, x.run.run s = (.ok a, u) ∧ (f a).run.run u = (.ok b, t) := by
  rw [ExceptT.run_bind, StateT.run_bind] at run
  cases first : x.run.run s with
  | mk result u =>
    rw [first] at run
    cases result with
    | error e => cases run
    | ok a => exact ⟨a, u, rfl, run⟩

theorem gives_bind {x : Gather σ α} {f : α → Gather σ β} {b : β} (given : (x >>= f).Gives b) :
    ∃ a, x.Gives a ∧ (f a).Gives b := by
  obtain ⟨s, t, run⟩ := given
  obtain ⟨a, u, first, rest⟩ := run_bind_ok run
  exact ⟨a, ⟨s, u, first⟩, u, t, rest⟩

theorem gives_ofExcept {x : Except GatherError α} {a : α}
    (given : (ofExcept x : Gather σ α).Gives a) : x = .ok a := by
  cases x with
  | error e => exact (gives_throw given).elim
  | ok b => rw [gives_pure given]

theorem gives_mapM {f : α → Gather σ β} {items : List α} {results : List β}
    (given : (items.mapM f).Gives results) :
    List.Forall₂ (fun a b => (f a).Gives b) items results := by
  induction items generalizing results with
  | nil =>
    rw [List.mapM_nil] at given
    rw [gives_pure given]
    exact .nil
  | cons a items ih =>
    rw [List.mapM_cons] at given
    obtain ⟨b, first, rest⟩ := gives_bind given
    obtain ⟨bs, others, whole⟩ := gives_bind rest
    rw [gives_pure whole]
    exact .cons first (ih others)

/-- Whether a gathering comes to a value from each state of the client. -/
def Answers (x : Gather σ α) : Prop := ∀ s, ∃ a t, x.run.run s = (.ok a, t)

end ClusterSurvey.Gather
