import ClusterSurvey.Pattern.Expression
import Mathlib.Data.List.Basic

/-!
Reading a pattern that goes on. What is read of a text is read in the same way if more follows,
unless the reading came to the end of the text: then white space that does not count, or a comment,
could go on in what follows. Names that were given to groups before make no difference either,
unless one of them is given again.
-/
namespace ClusterSurvey.Pattern

namespace Reading

/-- The reading of a text that goes on with `t`, behind a text that gave these names. -/
def before (s : Reading) (t : List Char) (given : List (List Char)) : Reading :=
  ⟨s.rest ++ t, s.spaced, given⟩

theorem before_nil (s : Reading) (given : List (List Char)) :
    s.before [] given = ⟨s.rest, s.spaced, given⟩ := by
  rw [before, List.append_nil]

/-- Whether it makes no difference that the text goes on: it does not, or it was not read to its
end, or, if `atEnd` allows that, white space counts there. -/
def Apart (atEnd : Bool) (t : List Char) (s : Reading) : Prop :=
  t = [] ∨ s.rest ≠ [] ∨ (atEnd = true ∧ s.spaced = false)

def Unfinished (s : Reading) : Prop := s.rest ≠ []

def AtMost (length : Nat) (s : Reading) : Prop := s.rest.length ≤ length

/-- What was read between two states: at least `used` characters, in which groups got these
names. -/
structure Passed (atEnd : Bool) (t : List Char) (used : Nat) (named : List (List Char))
    (s s' : Reading) : Prop where
  shorter : s'.rest.length + used ≤ s.rest.length
  apart : s'.Apart atEnd t → s.Apart atEnd t
  names : s'.names = named ++ s.names
  new : named.Disjoint s.names

theorem Passed.trans {early atEnd : Bool} {t : List Char} {used used' : Nat}
    {named more : List (List Char)} {s s' s'' : Reading} (first : Passed early t used named s s')
    (second : Passed atEnd t used' more s' s'') (less : s.Apart early t → s.Apart atEnd t)
    (inside : s'.Apart atEnd t → s'.Apart early t) :
    Passed atEnd t (used + used') (more ++ named) s s'' where
  shorter := by
    have one := first.shorter
    have two := second.shorter
    omega
  apart := fun h => less (first.apart (inside (second.apart h)))
  names := by rw [second.names, first.names, List.append_assoc]
  new := by
    have new := second.new
    rw [first.names, List.disjoint_append_right] at new
    exact List.disjoint_append_left.mpr ⟨new.2, first.new⟩

theorem Passed.disjoint {early atEnd : Bool} {t : List Char} {used used' : Nat}
    {named more : List (List Char)} {s s' s'' : Reading} (first : Passed early t used named s s')
    (second : Passed atEnd t used' more s' s'') :
    more.Disjoint named := by
  have new := second.new
  rw [first.names, List.disjoint_append_right] at new
  exact new.1

end Reading

/-- What reading a text that goes on comes to behind other names, if groups in it get the names
`named`: it fails if one of these was given before. -/
def Reads {α : Type} (t : List Char) (named : List (List Char)) (s : Reading) (long : Read α)
    (outcome : List (List Char) → Option (α × Reading) → Prop) : Prop :=
  ∀ given, (named.Disjoint given → outcome (named ++ given) (long.run (s.before t given))) ∧
    (¬ named.Disjoint given → long.run (s.before t given) = none)

theorem Reads.bind {α β : Type} {t : List Char} {named more : List (List Char)} {s s' : Reading}
    {a : α} {x : Read α} {f : α → Read β} {outcome : List (List Char) → Option (β × Reading) → Prop}
    (first : Reads t named s x fun given read => read = some (a, s'.before t given))
    (second : Reads t more s' (f a) outcome) (apart : more.Disjoint named) :
    Reads t (more ++ named) s (x >>= f) outcome := by
  refine fun given => ⟨fun free => ?_, fun taken => ?_⟩
  · obtain ⟨free', free⟩ := List.disjoint_append_left.mp free
    rw [StateT.run_bind, (first given).1 free, List.append_assoc]
    exact (second (named ++ given)).1 (List.disjoint_append_right.mpr ⟨apart, free'⟩)
  · rw [StateT.run_bind]
    by_cases free : named.Disjoint given
    · rw [(first given).1 free]
      refine (second (named ++ given)).2 fun all => taken ?_
      exact List.disjoint_append_left.mpr ⟨(List.disjoint_append_right.mp all).2, free⟩
    · rw [(first given).2 free]
      rfl

/-- Reading with `long` a text that goes on is like reading it with `short`, and fails if a name is
given again. -/
def Carries {α : Type} (atEnd : Bool) (t : List Char) (used : Nat) (start : Reading → Prop)
    (short long : Read α) :
    Prop :=
  ∀ s a s', start s → short.run s = some (a, s') → ∃ named, Reading.Passed atEnd t used named s s' ∧
    (s'.Apart atEnd t → Reads t named s long fun given read => read = some (a, s'.before t given))

namespace Carries

variable {α β : Type} {atEnd : Bool} {t : List Char} {used used' : Nat} {start : Reading → Prop}
    {short long : Read α}

theorem run_bind {x : Read α} {f : α → Read β} {s s'' : Reading} {b : β}
    (run : (x >>= f).run s = some (b, s'')) :
    ∃ a s', x.run s = some (a, s') ∧ (f a).run s' = some (b, s'') := by
  rw [StateT.run_bind] at run
  obtain ⟨⟨a, s'⟩, first, second⟩ := Option.bind_eq_some_iff.mp run
  exact ⟨a, s', first, second⟩

theorem of_start {start' : Reading → Prop} (carries : Carries atEnd t used start short long)
    (less : ∀ s, start' s → start s) : Carries atEnd t used start' short long :=
  fun s a s' here run => carries s a s' (less s here) run

theorem of_used (carries : Carries atEnd t used start short long) (less : used' ≤ used) :
    Carries atEnd t used' start short long := by
  intro s a s' here run
  obtain ⟨named, passed, reads⟩ := carries s a s' here run
  have shorter := Nat.le_trans (Nat.add_le_add_left less _) passed.shorter
  exact ⟨named, ⟨shorter, passed.apart, passed.names, passed.new⟩, reads⟩

/-- One reader after the other, the second for what the first leaves. The first one may do less at
the end of the text if the second one cannot begin there. -/
theorem bindOf {early : Bool} {next : α → Reading → Prop} {f g : α → Read β}
    (first : Carries early t used start short long)
    (leaves : ∀ s a s', start s → short.run s = some (a, s') → next a s')
    (second : ∀ a, Carries atEnd t used' (next a) (f a) (g a))
    (less : ∀ s : Reading, s.Apart early t → s.Apart atEnd t)
    (inside : ∀ a s b s', (f a).run s = some (b, s') → s.Apart atEnd t → s.Apart early t) :
    Carries atEnd t (used + used') start (short >>= f) (long >>= g) := by
  intro s b s'' here run
  obtain ⟨a, s', run₁, run₂⟩ := run_bind run
  obtain ⟨named, passed, reads⟩ := first s a s' here run₁
  obtain ⟨more, passed', reads'⟩ := second a s' b s'' (leaves s a s' here run₁) run₂
  have back : s'.Apart atEnd t → s'.Apart early t := inside a s' b s'' run₂
  exact ⟨more ++ named, passed.trans passed' (less s) back,
    fun h => (reads (back (passed'.apart h))).bind (reads' h) (passed.disjoint passed')⟩

theorem bind {next : α → Reading → Prop} {f g : α → Read β}
    (first : Carries atEnd t used start short long)
    (leaves : ∀ s a s', start s → short.run s = some (a, s') → next a s')
    (second : ∀ a, Carries atEnd t used' (next a) (f a) (g a)) :
    Carries atEnd t (used + used') start (short >>= f) (long >>= g) :=
  first.bindOf leaves second (fun _ h => h) fun _ _ _ _ _ h => h

theorem andThen {f g : α → Read β} (first : Carries atEnd t used' start short long)
    (second : ∀ a, Carries atEnd t used (fun _ => True) (f a) (g a)) :
    Carries atEnd t used start (short >>= f) (long >>= g) :=
  (first.bind (fun _ _ _ _ _ => trivial) second).of_used (Nat.le_add_left _ _)

theorem opensIn {next : α → Reading → Prop} {f g : α → Read β}
    (first : Carries atEnd t used start short long)
    (leaves : ∀ s a s', start s → short.run s = some (a, s') → next a s')
    (second : ∀ a, Carries atEnd t 0 (next a) (f a) (g a)) :
    Carries atEnd t used start (short >>= f) (long >>= g) :=
  first.bind leaves second

theorem opens {f g : α → Read β} (first : Carries atEnd t used start short long)
    (second : ∀ a, Carries atEnd t 0 (fun _ => True) (f a) (g a)) :
    Carries atEnd t used start (short >>= f) (long >>= g) :=
  first.opensIn (fun _ _ _ _ _ => trivial) second

theorem within {f g : α → Read β} (first : Carries false t used' start short long)
    (second : ∀ a, Carries atEnd t used (fun _ => True) (f a) (g a))
    (needs : ∀ a s, s.rest = [] → (f a).run s = none) :
    Carries atEnd t used start (short >>= f) (long >>= g) := by
  refine (first.bindOf (fun _ _ _ _ _ => trivial) second (fun s h => ?_) fun a s b s' run _ =>
    ?_).of_used
    (Nat.le_add_left _ _)
  · exact h.imp_right fun inside => inside.imp_right fun never => absurd never.1 Bool.false_ne_true
  · refine Or.inr (Or.inl fun none => ?_)
    rw [needs a s none] at run
    cases run

theorem shorter (carries : Carries atEnd t used start short long) {s s' : Reading} {a : α}
    (here : start s) (run : short.run s = some (a, s')) :
    s'.rest.length + used ≤ s.rest.length := by
  obtain ⟨_, passed, _⟩ := carries s a s' here run
  exact passed.shorter

theorem atMost {length : Nat} (carries : Carries atEnd t used start short long)
    (bound : ∀ s, start s → s.AtMost (length + used)) {s s' : Reading} {a : α} (here : start s)
    (run : short.run s = some (a, s')) : s'.AtMost length :=
  Nat.le_of_add_le_add_right (Nat.le_trans (carries.shorter here run) (bound s here))

theorem shortens {length : Nat} {f g : α → Read β} (first : Carries atEnd t used' start short long)
    (bound : ∀ s, start s → s.AtMost (length + used'))
    (second : ∀ a, Carries atEnd t used (Reading.AtMost length) (f a) (g a)) :
    Carries atEnd t used start (short >>= f) (long >>= g) :=
  (first.bind (fun _ _ _ here run => first.atMost bound here run) second).of_used
    (Nat.le_add_left _ _)

theorem opensShorter {length : Nat} {f g : α → Read β}
    (first : Carries atEnd t used start short long)
    (bound : ∀ s, start s → s.AtMost (length + used))
    (second : ∀ a, Carries atEnd t 0 (Reading.AtMost length) (f a) (g a)) :
    Carries atEnd t used start (short >>= f) (long >>= g) :=
  first.opensIn (fun _ _ _ here run => first.atMost bound here run) second

theorem of_nameless (reads : ∀ s a s', start s → short.run s = some (a, s') →
      s'.names = s.names ∧ s'.rest.length + used ≤ s.rest.length ∧
        (s'.Apart atEnd t → s.Apart atEnd t ∧
        ∀ given, long.run (s.before t given) = some (a, s'.before t given))) :
    Carries atEnd t used start short long := by
  intro s a s' here run
  obtain ⟨names, shorter, same⟩ := reads s a s' here run
  refine ⟨[], ⟨shorter, fun h => (same h).1, names, List.disjoint_nil_left _⟩,
    fun h given => ⟨fun _ => ?_, fun taken => ?_⟩⟩
  · exact (same h).2 given
  · exact absurd (List.disjoint_nil_left given) taken

theorem pure (a : α) : Carries atEnd t 0 start (Pure.pure a) (Pure.pure a) := by
  refine of_nameless fun s b s' _ run => ?_
  cases run
  exact ⟨rfl, Nat.le_refl _, fun h => ⟨h, fun _ => rfl⟩⟩

theorem failure {long : Read α} : Carries atEnd t used start Alternative.failure long := by
  intro s a s' _ run
  cases run

theorem failure_bind {f : α → Read β} {long : Read β} :
    Carries atEnd t used start (Alternative.failure >>= f) long := by
  intro s a s' _ run
  cases run

theorem failIf {c : Prop} [Decidable c] {f g : PUnit → Read β}
    (next : ¬ c → Carries atEnd t used start (f ⟨⟩) (g ⟨⟩)) :
    Carries atEnd t used start (if c then Alternative.failure >>= f else f ⟨⟩)
      (if c then Alternative.failure >>= g else g ⟨⟩) := by
  by_cases fails : c
  · intro s a s' _ run
    rw [if_pos fails] at run
    cases run
  · rw [if_neg fails, if_neg fails]
    exact next fails

end Carries

end ClusterSurvey.Pattern
