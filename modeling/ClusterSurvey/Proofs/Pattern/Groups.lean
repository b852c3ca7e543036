import ClusterSurvey.Proofs.Pattern.Brackets

/-!
Groups and alternatives in front of more text.
-/
namespace ClusterSurvey.Pattern

namespace Read

section Heads

variable {α : Type} {atEnd : Bool} {t : List Char} {used length : Nat} {start : Reading → Prop}

theorem carries_spaced {f g : Bool → Read α}
    (next : ∀ spaced, Carries atEnd t used start (f spaced) (g spaced)) :
    Carries atEnd t used start (get >>= fun s => f s.spaced) (get >>= fun s => g s.spaced) :=
  fun s a s' here run => next s.spaced s a s' here run

theorem carries_bump_setSpaced (spaced : Bool) :
    Carries atEnd t 1 Reading.Unfinished (bump >>= fun _ => setSpaced spaced)
      (bump >>= fun _ => setSpaced spaced) := by
  refine Carries.of_nameless fun s a s' some run => ?_
  obtain ⟨c, rest, next⟩ := List.exists_cons_of_ne_nil some
  cases run
  refine ⟨rfl, ?_, fun _ => ⟨Or.inr (Or.inl some), fun given => ?_⟩⟩
  · simp [next]
  · simp [bump, setSpaced, Reading.before, next]

theorem carries_expected {c : Char} {f g : PUnit → Read α}
    (next : Carries atEnd t used (fun s => start s ∧ s.rest.head? = some c) (f ⟨⟩) (g ⟨⟩)) :
    Carries atEnd t used start (peek >>= fun next => if next ≠ some c then failure >>= f else f ⟨⟩)
      (peek >>= fun next => if next ≠ some c then failure >>= g else g ⟨⟩) := by
  intro s a s' here run
  have step : ∀ (s : Reading) (f : PUnit → Read α),
      (peek >>= fun next => if next ≠ some c then failure >>= f else f ⟨⟩).run s =
        (if s.rest.head? ≠ some c then failure >>= f else f ⟨⟩).run s := fun _ _ => rfl
  rw [step] at run
  by_cases head : s.rest.head? = some c
  · rw [if_neg (not_not_intro head)] at run
    obtain ⟨named, passed, reads⟩ := next s a s' ⟨here, head⟩ run
    refine ⟨named, passed, fun h given => ?_⟩
    have further : (s.before t given).rest.head? = some c := head?_append head t
    rw [step, if_neg (not_not_intro further)]
    exact reads h given
  · rw [if_pos head] at run
    cases run

def groupName? (cs : List Char) : Option (List Char × List Char) :=
  let name := cs.takeWhile (· ≠ '>')
  let rest := cs.drop name.length
  if rest.isEmpty ∨ name.isEmpty then none
  else if !(name.take 1).all (isNameChar true) ∨ !(name.drop 1).all (isNameChar false) then none
  else some (name, rest.drop 1)

theorem run_groupName (s : Reading) : groupName.run s = (groupName? s.rest).bind fun p =>
    if p.1 ∈ s.names then none else some ((), ⟨p.2, s.spaced, p.1 :: s.names⟩) := by
  have step : groupName.run s = (if (s.rest.drop (s.rest.takeWhile (· ≠ '>')).length).isEmpty ∨
        (s.rest.takeWhile (· ≠ '>')).isEmpty ∨
          s.names.contains (s.rest.takeWhile (· ≠ '>')) then failure
      else if !((s.rest.takeWhile (· ≠ '>')).take 1).all (isNameChar true) ∨
        !((s.rest.takeWhile (· ≠ '>')).drop 1).all (isNameChar false) then failure
      else set ({ s with
        rest := (s.rest.drop (s.rest.takeWhile (· ≠ '>')).length).drop 1
        names := s.rest.takeWhile (· ≠ '>') :: s.names } : Reading) : Read Unit).run s := by
    unfold groupName
    simp only [StateT.run_bind, StateT.run_get, pure_bind]
    rfl
  rw [step]
  unfold groupName?
  generalize s.rest.takeWhile (· ≠ '>') = name
  dsimp only
  generalize s.rest.drop name.length = rest
  have taken : s.names.contains name = true ↔ name ∈ s.names := List.contains_iff_mem
  by_cases missing : rest.isEmpty = true ∨ name.isEmpty = true
  · rw [if_pos (missing.imp_right Or.inl), if_pos missing]
    rfl
  · rw [if_neg missing]
    have split : (rest.isEmpty = true ∨ name.isEmpty = true ∨ s.names.contains name = true) ↔
        name ∈ s.names := by
      rw [← or_assoc, or_iff_right missing, taken]
    rw [if_congr split rfl rfl]
    by_cases new : name ∈ s.names
    · rw [if_pos new]
      split
      · rfl
      · rw [Option.bind_some, if_pos new]
        rfl
    · rw [if_neg new]
      split
      · rfl
      · rw [Option.bind_some, if_neg new]
        rfl

theorem groupName?_append {cs name rest : List Char} (found : groupName? cs = some (name, rest))
    (t : List Char) :
    rest.length ≤ cs.length ∧ groupName? (cs ++ t) = some (name, rest ++ t) := by
  unfold groupName? at found ⊢
  dsimp only at found ⊢
  split at found
  · cases found
  · rename_i present
    have behind : cs.drop (cs.takeWhile (· ≠ '>')).length ≠ [] :=
      fun none => present (Or.inl (by rw [none]; rfl))
    have name := (List.takeWhile_sublist (· ≠ '>') (l := cs)).length_le
    have empty : ∀ rest : List Char, (rest ++ t).isEmpty = true → rest.isEmpty = true := by
      intro rest none
      rw [List.isEmpty_iff] at none ⊢
      exact (List.append_eq_nil_iff.mp none).1
    have one : 1 ≤ (cs.drop (cs.takeWhile (· ≠ '>')).length).length :=
      List.length_pos_of_ne_nil behind
    rw [takeWhile_append_of_drop behind, List.drop_append_of_le_length name,
      List.drop_append_of_le_length one, if_neg fun missing => present (missing.imp_left (empty _))]
    split at found
    · cases found
    · rename_i good
      cases found
      rw [if_neg good]
      refine ⟨?_, rfl⟩
      rw [List.length_drop, List.length_drop]
      omega

theorem carries_groupName : Carries atEnd t 0 start groupName groupName := by
  intro s a s' _ run
  rw [run_groupName] at run
  obtain ⟨⟨name, rest⟩, found, run⟩ := Option.bind_eq_some_iff.mp run
  obtain ⟨shorter, further⟩ := groupName?_append found t
  dsimp only at run
  split at run
  · cases run
  · rename_i new
    cases run
    refine ⟨[name], ⟨shorter, fun _ => ?_, rfl, ?_⟩, fun _ given => ?_⟩
    · refine Or.inr (Or.inl fun none => ?_)
      rw [none] at found
      cases found
    · exact List.singleton_disjoint.mpr new
    · have step : groupName.run (s.before t given) = if name ∈ given then none else
          some ((), ⟨rest ++ t, s.spaced, name :: given⟩) := by
        rw [run_groupName, Reading.before, further]
        rfl
      rw [step, List.singleton_disjoint]
      exact ⟨fun free => if_neg free, fun taken => if_pos (not_not.mp taken)⟩

theorem carries_repeated (least : Nat) (most : Option Nat) (parts : List Expression) :
    Carries atEnd t 0 start (repeated least most parts) (repeated least most parts) := by
  unfold repeated
  split
  · exact Carries.failure
  · exact Carries.failure
  · exact Carries.failure
  · exact Carries.pure _

def noLook (words : List (List Char)) : Read PUnit :=
  forIn words PUnit.unit fun look _ => do
    if ← skipIf look then
      failure
      pure (ForInStep.yield PUnit.unit)
    else pure (ForInStep.yield PUnit.unit)

theorem carries_noLook (behind : ∀ c ∈ t.head?, c = '|') {words : List (List Char)}
    (clear : ∀ word ∈ words, word ≠ [] ∧ '|' ∉ word) :
    Carries atEnd t 0 start (noLook words) (noLook words) := by
  induction words generalizing start with
  | nil => exact Carries.pure _
  | cons word words ih =>
    obtain ⟨some, noBar⟩ := clear word List.mem_cons_self
    have head : noLook (word :: words) = (skipIf word >>= fun met =>
        if met then failure >>= fun _ : PUnit => noLook words else noLook words) := by
      unfold noLook
      rw [List.forIn_cons, bind_assoc]
      refine bind_congr fun met => ?_
      cases met <;> rfl
    rw [head]
    refine (carries_skipIf behind some noBar).andThen fun met => ?_
    cases met with
    | true => exact Carries.failure_bind
    | false => exact ih fun word member => clear word (List.mem_cons_of_mem _ member)

def part (parts : List Expression) (c : Char) (fuel : Nat) : Read (List Expression) :=
  match c with
  | '(' => return (← group fuel) :: parts
  | '[' => return .set (← brackets (← Read.fuel)) :: parts
  | '\x7b' => do
    if parts.isEmpty then failure
    let (least, most) ← bounds
    bumpSpace
    let _ ← skipIf ['?']
    repeated least most parts
  | c =>
    if c = '?' ∨ c = '*' ∨ c = '+' then do
      bump
      let _ ← skipIf ['?']
      repeated (if c = '+' then 1 else 0) (if c = '?' then some 1 else none) parts
    else return (← primitive) :: parts

def onward (branches parts : List Expression) (fuel : Nat) : Option Char → Read Expression
  | none => return finished branches parts
  | some ')' => return finished branches parts
  | some '|' => do
    bump
    alternatives (concatenation parts :: branches) [] fuel
  | some c => do
    alternatives branches (← part parts c fuel) fuel

theorem onward_some {c : Char} (inside : c ≠ ')') (same : c ≠ '|')
    (branches parts : List Expression) (fuel : Nat) :
    onward branches parts fuel (some c) = part parts c fuel
      >>= fun parts => alternatives branches parts fuel :=
  onward.eq_4 _ _ _ _ inside same

theorem alternatives_succ (branches parts : List Expression) (fuel : Nat) :
    alternatives branches parts (fuel + 1) = skipSpace >>= fun _ => peek
      >>= onward branches parts fuel := by
  rw [alternatives]
  refine bind_congr fun _ => bind_congr fun head => ?_
  split
  · rfl
  · rfl
  · rfl
  · rw [onward_some (by decide) (by decide), part.eq_1]
    simp only [bind_assoc, pure_bind]
  · rw [onward_some (by decide) (by decide), part.eq_2]
    simp only [bind_assoc, pure_bind]
  · rw [onward_some (by decide) (by decide), part.eq_3]
    dsimp only
    split
    · rfl
    · simp only [bind_assoc]
  · rename_i c closing bar opening bracket brace
    rw [onward_some closing bar, part.eq_4 _ _ _ opening bracket brace]
    dsimp only
    split
    · simp only [bind_assoc]
    · simp only [bind_assoc, pure_bind]

theorem carries_part (behind : ∀ c ∈ t.head?, c = '|') {n m : Nat}
    (groups : Carries atEnd t 1 (fun s => s.AtMost (length + 1) ∧ s.Unfinished) (group n) (group m))
    (parts : List Expression) (c : Char) :
    Carries atEnd t 1 (fun s => s.AtMost (length + 1) ∧ s.rest.head? = some c) (part parts c n)
      (part parts c m) := by
  have sets : Carries atEnd t 1 (fun s => s.AtMost (length + 1) ∧ s.rest.head? = some '[')
      (fuel >>= brackets)
      (fuel >>= brackets) :=
    carries_fuel fun n m enough => (carries_set behind enough).1.of_start fun s here =>
      unfinished_of_head? here.2
  unfold part
  split
  · exact (groups.of_start fun s here => ⟨here.1, unfinished_of_head? here.2⟩).opens fun e =>
      Carries.pure _
  · have one := sets.opens fun s => Carries.pure (.set s :: parts)
    simpa only [bind_assoc] using one
  · refine Carries.failIf fun _ => ?_
    refine (carries_bounds.of_start fun s here => unfinished_of_head? here.2).opensIn
      (fun s range s' _ run => unfinished_of_bounds run) fun range => ?_
    refine (carries_bumpSpace.of_used (Nat.zero_le 1)).andThen fun _ => ?_
    exact (carries_skipIf behind (by decide) (by decide)).andThen fun _ =>
      carries_repeated _ _ parts
  · split
    · refine carries_bump_of_head.opens fun _ => ?_
      exact (carries_skipIf behind (by decide) (by decide)).andThen fun _ =>
        carries_repeated _ _ parts
    · exact (carries_primitive behind).opens fun e => Carries.pure _

def behindFlags (outer : Bool) (fuel : Nat) (change : FlagChange) (c : Char) : Read Expression := do
  if c = ')' then
    if change.on.isEmpty ∧ change.off.isEmpty then failure
    return .flags change
  groupBody change outer fuel

def flagsEnd (outer : Bool) (fuel : Nat) (change : FlagChange) : Read Expression := do
  let c ← char
  bump
  match FlagChange.state change 'x' with
  | some value =>
    setSpaced value
    behindFlags outer fuel change c
  | none => behindFlags outer fuel change c

def flagged (outer : Bool) (fuel : Nat) : Read Expression := do
  let _ ← char
  let change ← flagChange true [] (← Read.fuel)
  flagsEnd outer fuel change

def groupHead (outer : Bool) (fuel : Nat) : Read Expression := do
  if ← skipIf ['?', 'P', '<'] then
    groupName
    groupBody ⟨[], []⟩ outer fuel
  else if ← skipIf ['?', '<'] then
    groupName
    groupBody ⟨[], []⟩ outer fuel
  else if ← skipIf ['?'] then flagged outer fuel
  else groupBody ⟨[], []⟩ outer fuel

theorem group_succ (fuel : Nat) :
    group (fuel + 1) = bumpSpace >>= fun _ =>
      noLook [['?', '='], ['?', '!'], ['?', '<', '='], ['?', '<', '!']] >>= fun _ =>
        get >>= fun s => groupHead s.spaced fuel := by
  rw [group]
  rfl

theorem groupBody_succ (change : FlagChange) (outer : Bool) (fuel : Nat) :
    groupBody change outer (fuel + 1) = alternatives [] [] fuel >>= fun e => peek >>= fun next =>
      if next ≠ some ')' then
        failure >>= fun _ : PUnit => bump >>= fun _ => setSpaced outer
          >>= fun _ => pure (.group change e)
      else bump >>= fun _ => setSpaced outer >>= fun _ => pure (.group change e) := by
  rw [groupBody]

theorem carries_flagsEnd {n m : Nat} (outer : Bool) (change : FlagChange)
    (bodies : Carries atEnd t 0 (Reading.AtMost length) (groupBody change outer n)
      (groupBody change outer m)) :
    Carries atEnd t 0 (Reading.AtMost length) (flagsEnd outer n change)
      (flagsEnd outer m change) := by
  unfold flagsEnd
  refine carries_char fun c => ?_
  have behind : Carries atEnd t 0 (Reading.AtMost length) (behindFlags outer n change c)
      (behindFlags outer m change c) := by
    unfold behindFlags
    split
    · exact Carries.failIf fun _ => Carries.pure _
    · exact bodies
  have shorter : ∀ s : Reading, s.AtMost length ∧ s.rest.head? = some c → s.AtMost (length + 1) :=
    fun s here => Nat.le_succ_of_le here.1
  cases FlagChange.state change 'x' with
  | some value =>
    have both : Carries atEnd t 1 (fun s => s.AtMost length ∧ s.rest.head? = some c)
        (bump >>= fun _ => setSpaced value) (bump >>= fun _ => setSpaced value) :=
      (carries_bump_setSpaced value).of_start fun s here => unfinished_of_head? here.2
    have whole := both.shortens shorter fun _ => behind
    simpa only [bind_assoc] using whole
  | none => exact carries_bump_of_head.shortens shorter fun _ => behind

theorem carries_flagged {n m : Nat} (outer : Bool)
    (bodies : ∀ change, Carries atEnd t 0 (Reading.AtMost length) (groupBody change outer n)
      (groupBody change outer m)) :
    Carries atEnd t 0 (Reading.AtMost length) (flagged outer n) (flagged outer m) := by
  unfold flagged
  refine carries_char fun _ => ?_
  have flags : Carries atEnd t 0 (Reading.AtMost length) (fuel >>= flagChange true [])
      (fuel >>= flagChange true []) :=
    carries_fuel fun n m enough => carries_flagChange enough true []
  have whole :=
    flags.shortens (fun _ here => here) fun change => carries_flagsEnd outer change (bodies change)
  simp only [bind_assoc] at whole
  exact whole.of_start fun s here => here.1

theorem carries_groupHead (behind : ∀ c ∈ t.head?, c = '|') {n m : Nat} (outer : Bool)
    (bodies : ∀ change, Carries atEnd t 0 (Reading.AtMost length) (groupBody change outer n)
      (groupBody change outer m)) :
    Carries atEnd t 0 (Reading.AtMost length) (groupHead outer n) (groupHead outer m) := by
  unfold groupHead
  have named : Carries atEnd t 0 (Reading.AtMost length)
      (groupName >>= fun _ => groupBody ⟨[], []⟩ outer n)
      (groupName >>= fun _ => groupBody ⟨[], []⟩ outer m) :=
    carries_groupName.shortens (fun _ here => here) fun _ => bodies _
  have step : ∀ {word} {f g : Bool → Read Expression}, word ≠ [] → '|' ∉ word →
      (∀ met, Carries atEnd t 0 (Reading.AtMost length) (f met) (g met)) →
      Carries atEnd t 0 (Reading.AtMost length) (skipIf word >>= f) (skipIf word >>= g) :=
    fun some clear next => (carries_skipIf behind some clear).shortens (fun _ here => here) next
  refine step (by decide) (by decide) fun met => ?_
  split
  · exact named
  · refine step (by decide) (by decide) fun met => ?_
    split
    · exact named
    · refine step (by decide) (by decide) fun met => ?_
      split
      · exact carries_flagged outer bodies
      · exact bodies _

theorem carries_group_succ (behind : ∀ c ∈ t.head?, c = '|') {n m : Nat}
    (bodies : ∀ change outer, Carries atEnd t 0 (Reading.AtMost length) (groupBody change outer n)
      (groupBody change outer m)) :
    Carries atEnd t 1 (fun s => s.AtMost (length + 1) ∧ s.Unfinished) (group (n + 1))
      (group (m + 1)) := by
  rw [group_succ, group_succ]
  refine (carries_bumpSpace.of_start fun s here => here.2).opensShorter (fun s here =>
    here.1) fun _ => ?_
  refine (carries_noLook behind (by decide)).shortens (fun _ here => here) fun _ => ?_
  exact carries_spaced fun outer => carries_groupHead behind outer fun change => bodies change outer

theorem carries_groupBody_succ {n m : Nat} (change : FlagChange) (outer : Bool)
    (branches : Carries false t 0 (Reading.AtMost length) (alternatives [] [] n)
      (alternatives [] [] m)) :
    Carries atEnd t 0 (Reading.AtMost length) (groupBody change outer (n + 1))
      (groupBody change outer (m + 1)) := by
  rw [groupBody_succ, groupBody_succ]
  refine branches.within (fun e => carries_expected ?_) fun e s none => ?_
  · have closing : Carries atEnd t 0 (fun s => True ∧ s.rest.head? = some ')')
        (bump >>= fun _ => setSpaced outer)
        (bump >>= fun _ => setSpaced outer) :=
      ((carries_bump_setSpaced outer).of_start fun s here =>
          unfinished_of_head? here.2).of_used (Nat.zero_le 1)
    have whole := closing.andThen fun _ => Carries.pure (Expression.group change e)
    simpa only [bind_assoc] using whole
  · have step : ∀ f : Option Char → Read Expression, (peek >>= f).run s = (f s.rest.head?).run s :=
      fun _ => rfl
    rw [step, none, List.head?_nil, if_pos (by simp)]
    rfl

/-- Where reading alternatives stops: in front of white space and then the end of the text or a
parenthesis. -/
structure Stopped (branches parts : List Expression) (s : Reading) (e : Expression)
    (s' : Reading) : Prop where
  result : e = finished branches parts
  space : skipSpace.run s = some ((), s')
  closed : s'.rest.head? = none ∨ s'.rest.head? = some ')'

theorem run_alternatives_succ (branches parts : List Expression) (fuel : Nat) {s s₁ : Reading}
    (space : skipSpace.run s = some ((), s₁)) : (alternatives branches parts (fuel + 1)).run s =
      (onward branches parts fuel s₁.rest.head?).run s₁ := by
  rw [alternatives_succ, StateT.run_bind, space]
  rfl

theorem Stopped.run {branches parts : List Expression} {s s' : Reading} {e : Expression}
    (stopped : Stopped branches parts s e s') (fuel : Nat) :
    (alternatives branches parts (fuel + 1)).run s = some (e, s') := by
  rw [run_alternatives_succ branches parts fuel stopped.space, stopped.result]
  rcases stopped.closed with ended | closing
  · rw [ended]
    rfl
  · rw [closing]
    rfl

/-- Reading alternatives with `long` in a text that goes on comes to where reading them with `short`
stops, behind the alternatives `cs` instead of `bs`. -/
def Continues (t : List Char) (bs cs : List Expression) (start : Reading → Prop)
    (short long : Read Expression) :
    Prop :=
  ∀ s e s', start s → short.run s = some (e, s') → ∃ more parts named s₀,
    Stopped (more ++ bs) parts s₀ e s' ∧ Reading.Passed true t 0 named s s₀ ∧
      (s₀.Apart true t → Reads t named s long fun given read =>
          ∃ fuel, 3 * (s₀.rest.length + t.length) + 1 ≤ fuel ∧
        read = (alternatives (more ++ cs) parts fuel).run (s₀.before t given))

namespace Continues

variable {bs cs : List Expression} {short long : Read Expression}

theorem bind {β : Type} {x y : Read β} {f g : β → Read Expression}
    (first : Carries true t 1 start x y) (bound : ∀ s, start s → s.AtMost (length + 1))
    (second : ∀ a, Continues t bs cs (Reading.AtMost length) (f a) (g a)) :
    Continues t bs cs start (x >>= f) (y >>= g) := by
  intro s e s'' here run
  obtain ⟨a, s', run₁, run₂⟩ := Carries.run_bind run
  obtain ⟨named, passed, reads⟩ := first s a s' here run₁
  obtain ⟨more, parts, named', s₀, stopped, passed', reads'⟩ :=
    second a s' e s'' (first.atMost bound here run₁) run₂
  have whole := passed.trans passed' id id
  refine ⟨more, parts, named' ++ named, s₀, stopped,
    ⟨Nat.le_trans (Nat.le_add_right _ _) whole.shorter, whole.apart, whole.names, whole.new⟩,
    fun h => ?_⟩
  exact (reads (passed'.apart h)).bind (reads' h) (passed.disjoint passed')

theorem branch {b : Expression} (continues : Continues t (b :: bs) (b :: cs) start short long) :
    Continues t bs cs start short long := by
  intro s e s' here run
  obtain ⟨more, parts, named, s₀, stopped, passed, reads⟩ := continues s e s' here run
  have append : ∀ es, more ++ [b] ++ es = more ++ b :: es := fun es => by simp
  refine ⟨more ++ [b], parts, named, s₀, ?_, passed, fun h => ?_⟩
  · rw [append]
    exact stopped
  · rw [append]
    exact reads h

theorem stops (continues : Continues t bs cs start short long) {s s' : Reading} {e : Expression}
    (here : start s) (run : short.run s = some (e, s')) :
    ∃ more parts named, e = finished (more ++ bs) parts ∧
      Reading.Passed false t 0 named s s' ∧
        (s'.Apart false t → Reads t named s long fun given read =>
        read = some (finished (more ++ cs) parts, s'.before t given)) := by
  obtain ⟨more, parts, named, s₀, stopped, passed, reads⟩ := continues s e s' here run
  obtain ⟨names, shorter, further⟩ := skipSpace_before true t stopped.space
  have inside : s'.Apart false t → t = [] ∨ s'.rest ≠ [] := fun h =>
    h.imp_right fun h => h.resolve_right fun never => Bool.false_ne_true never.1
  have last : s'.Apart false t → s'.Apart true t := fun h => (inside h).imp_right Or.inl
  refine ⟨more, parts, named, stopped.result,
    ⟨Nat.le_trans shorter passed.shorter, fun h => ?_, names.trans passed.names, passed.new⟩,
    fun h given => ⟨fun free => ?_, fun taken => (reads (further (last h)).1 given).2 taken⟩⟩
  · refine (inside h).imp_right fun some => Or.inl fun none => some ?_
    have less := Nat.le_trans shorter passed.shorter
    rw [none] at less
    exact List.length_eq_zero_iff.mp (Nat.le_zero.mp less)
  · obtain ⟨before, same⟩ := further (last h)
    obtain ⟨fuel, enough, read⟩ := (reads before given).1 free
    obtain ⟨fuel, rfl⟩ := Nat.exists_eq_add_one_of_ne_zero (show fuel ≠ 0 by omega)
    have head : (s'.before t (named ++ given)).rest.head? = s'.rest.head? := by
      rcases inside h with nothing | unfinished
      · rw [Reading.before, nothing, List.append_nil]
      · rw [Reading.before, List.head?_append_of_ne_nil _ unfinished]
    rw [read]
    exact Stopped.run ⟨rfl, same _, head ▸ stopped.closed⟩ fuel

theorem closes (continues : Continues t [] [] start short long) :
    Carries false t 0 start short long := by
  intro s e s' here run
  obtain ⟨more, parts, named, rfl, passed, reads⟩ := continues.stops here run
  exact ⟨named, passed, reads⟩

end Continues

theorem continues_of_closed {bs cs parts : List Expression} {n m : Nat} {s s₁ s' : Reading}
    {e : Expression} (space : skipSpace.run s = some ((), s₁))
    (closed : s₁.rest.head? = none ∨ s₁.rest.head? = some ')')
    (enough : 3 * (s.rest.length + t.length) + 1 ≤ m)
    (run : (alternatives bs parts (n + 1)).run s = some (e, s')) : ∃ more parts' named s₀,
      Stopped (more ++ bs) parts' s₀ e s' ∧ Reading.Passed true t 0 named s s₀ ∧
        (s₀.Apart true t → Reads t named s (alternatives cs parts m) fun given read =>
          ∃ fuel, 3 * (s₀.rest.length + t.length) + 1 ≤ fuel ∧
            read = (alternatives (more ++ cs) parts' fuel).run (s₀.before t given)) := by
  have same : e = finished bs parts ∧ s' = s₁ := by
    rw [run_alternatives_succ bs parts n space] at run
    rcases closed with ended | closing
    · rw [ended] at run
      cases run
      exact ⟨rfl, rfl⟩
    · rw [closing] at run
      cases run
      exact ⟨rfl, rfl⟩
  obtain ⟨result, rfl⟩ := same
  refine ⟨[], parts, [], s, ⟨result, space, closed⟩,
    ⟨Nat.le_refl _, id, rfl, List.disjoint_nil_left _⟩,
    fun _ given => ⟨fun _ => ⟨m, enough, rfl⟩,
      fun taken => absurd (List.disjoint_nil_left given) taken⟩⟩

theorem continues_succ (behind : ∀ c ∈ t.head?, c = '|') {n m : Nat}
    (enough : 3 * (length + 1 + t.length) + 1 ≤ m + 1)
    (groups : Carries true t 1 (fun s => s.AtMost (length + 1) ∧ s.Unfinished) (group n) (group m))
    (rest : ∀ bs cs parts, Continues t bs cs (Reading.AtMost length) (alternatives bs parts n)
      (alternatives cs parts m)) (bs cs parts : List Expression) :
    Continues t bs cs (Reading.AtMost (length + 1)) (alternatives bs parts (n + 1))
      (alternatives cs parts (m + 1)) := by
  intro s e s' here run
  have few : s.rest.length ≤ length + 1 := here
  obtain ⟨s₁, space⟩ : ∃ s₁, skipSpace.run s = some ((), s₁) := ⟨_, run_skipSpace s⟩
  by_cases closed : s₁.rest.head? = none ∨ s₁.rest.head? = some ')'
  · exact continues_of_closed space closed (by omega) run
  · obtain ⟨c, head⟩ : ∃ c, s₁.rest.head? = some c :=
      Option.ne_none_iff_exists'.mp fun none => closed (Or.inl none)
    have notClosing : c ≠ ')' := fun same => closed (Or.inr (same ▸ head))
    obtain ⟨names, shorter, further⟩ := skipSpace_before true t space
    have apart : s₁.Apart true t := Or.inr (Or.inl (unfinished_of_head? head))
    rw [run_alternatives_succ bs parts n space, head] at run
    have onwards : Continues t bs cs (fun s => s.AtMost (length + 1) ∧ s.rest.head? = some c)
        (onward bs parts n (some c)) (onward cs parts m (some c)) := by
      by_cases bar : c = '|'
      · subst bar
        refine Continues.branch (b := concatenation parts) ?_
        exact Continues.bind carries_bump_of_head (fun s here => here.1) fun _ => rest _ _ []
      · rw [onward_some notClosing bar, onward_some notClosing bar]
        exact Continues.bind (carries_part behind groups parts c) (fun s here => here.1)
          fun parts => rest bs cs parts
    obtain ⟨more, parts', named, s₀, stopped, passed, reads⟩ :=
      onwards s₁ e s' ⟨Nat.le_trans shorter here, head⟩ run
    refine ⟨more, parts', named, s₀, stopped,
      ⟨Nat.le_trans passed.shorter shorter, fun h => (further apart).1, names ▸ passed.names,
        names ▸ passed.new⟩,
      fun h given => ?_⟩
    have long : (alternatives cs parts (m + 1)).run (s.before t given) =
        (onward cs parts m (some c)).run (s₁.before t given) := by
      have headLong : (s₁.before t given).rest.head? = some c := head?_append head t
      rw [run_alternatives_succ cs parts m ((further apart).2 given), headLong]
    rw [long]
    exact reads h given

/-- Alternatives, groups and what stands in groups, in front of more text. Of the readers that call
each other at most three begin at the same character, so three times as much fuel as there are
characters is enough. -/
theorem continues_alternatives (behind : ∀ c ∈ t.head?, c = '|') (n : Nat) :
    (∀ length m bs cs parts, 3 * (length + t.length) + 1 ≤ m →
      Continues t bs cs (Reading.AtMost length)
      (alternatives bs parts n) (alternatives cs parts m)) ∧
    (∀ length m, 3 * (length + 1 + t.length) ≤ m →
      Carries true t 1 (fun s => s.AtMost (length + 1) ∧ s.Unfinished) (group n) (group m)) ∧
    (∀ length m change outer, 3 * (length + t.length) + 2 ≤ m →
      Carries true t 0 (Reading.AtMost length) (groupBody change outer n)
        (groupBody change outer m)) := by
  -- On the fuel of the shorter text; the fuel of the longer one only has to be enough.
  induction n with
  | zero =>
    refine ⟨fun _ _ _ _ _ _ s e s' _ run => ?_, fun _ _ _ => Carries.failure, fun _ _ _ _ _ =>
      Carries.failure⟩
    cases run
  | succ n ih =>
    obtain ⟨branches, groups, bodies⟩ := ih
    refine ⟨fun length m bs cs parts enough => ?_, fun length m enough => ?_,
      fun length m change outer enough => ?_⟩
    all_goals obtain ⟨m, rfl⟩ := Nat.exists_eq_add_one_of_ne_zero (show m ≠ 0 by omega)
    · cases length with
      | zero =>
        intro s e s' here run
        have none : s.rest.length ≤ 0 := here
        have nothing : s.rest = [] := List.length_eq_zero_iff.mp (Nat.le_zero.mp none)
        have space : skipSpace.run s = some ((), s) := by
          obtain ⟨rest, spaced, names⟩ := s
          subst nothing
          cases spaced <;> rfl
        exact continues_of_closed space (Or.inl (by rw [nothing]; rfl)) (by omega) run
      | succ length =>
        exact continues_succ behind enough (groups length m (by omega))
          (fun bs cs parts => branches length m bs cs parts (by omega)) bs cs parts
    · exact carries_group_succ behind fun change outer => bodies length m change outer (by omega)
    · exact carries_groupBody_succ change outer (branches length m [] [] [] (by omega)).closes

end Heads

end Read

end ClusterSurvey.Pattern
