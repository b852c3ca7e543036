import ClusterSurvey.Proofs.Pattern.Steps

/-!
Sets in brackets, flags and the other readers that give no names, in front of more text.
-/
namespace ClusterSurvey.Pattern.Read

variable {α : Type} {atEnd : Bool} {t : List Char} {used : Nat} {start : Reading → Prop}

theorem carries_partTerm (p : Primitive) : Carries atEnd t 0 start (partTerm p) (partTerm p) := by
  cases p with
  | char c byte => exact Carries.pure _
  | set s => exact Carries.pure _
  | dot => exact Carries.failure
  | anchor a => exact Carries.failure

theorem carries_partChar (p : Primitive) : Carries atEnd t 0 start (partChar p) (partChar p) := by
  cases p with
  | char c byte => exact Carries.pure _
  | set s => exact Carries.failure
  | dot => exact Carries.failure
  | anchor a => exact Carries.failure

theorem carries_escape_of_head (behind : ∀ c ∈ t.head?, c = '|') {c : Char} :
    Carries atEnd t 1 (fun s => start s ∧ s.rest.head? = some c) escape escape :=
  (carries_escape behind).of_start fun _ here => unfinished_of_head? here.2

theorem carries_setPart (behind : ∀ c ∈ t.head?, c = '|') :
    Carries atEnd t 1 start setPart setPart := by
  unfold setPart
  refine carries_char fun c => ?_
  split
  · exact carries_escape_of_head behind
  · exact carries_bump_of_head.opens fun _ => Carries.pure _

theorem run_bumpSpace (s : Reading) :
    bumpSpace.run s = some ((), { s with rest := behindSpace s.spaced (s.rest.drop 1) }) := by
  have step : bumpSpace.run s = skipSpace.run { s with rest := s.rest.drop 1 } := rfl
  rw [step, run_skipSpace, behindSpace]
  split <;> rfl

theorem run_peekSecond (s : Reading) (f : Option Char → Read α) :
    (peekSecond >>= f).run s = (f (behindSpace s.spaced (s.rest.drop 1)).head?).run s := rfl

/-- A reader that looks at the character behind the next one. It may be the last one if it cannot go
on without a character behind it, or if it does not need it. -/
theorem carries_peekSecond {f g : Option Char → Read α} (some : ∀ s, start s → s.rest ≠ [])
    (next : ∀ c, Carries atEnd t used start (f c) (g c))
    (needs : ∀ s, behindSpace s.spaced (s.rest.drop 1) = [] → (f none).run s = none ∨
      ∀ c, g c = g none) :
    Carries atEnd t used start (peekSecond >>= f) (peekSecond >>= g) := by
  intro s a s' here run
  rw [run_peekSecond] at run
  obtain ⟨named, passed, reads⟩ := next _ s a s' here run
  refine ⟨named, passed, fun h given => ?_⟩
  rw [run_peekSecond]
  by_cases last : behindSpace s.spaced (s.rest.drop 1) = []
  · rw [last] at run reads
    rcases needs s last with fails | blind
    · rw [List.head?_nil, fails] at run
      cases run
    · rw [blind]
      exact reads h given
  · have whole : (s.before t given).rest.drop 1 = s.rest.drop 1 ++ t :=
      List.drop_append_of_le_length (List.length_pos_of_ne_nil (some s here))
    have spaced : (s.before t given).spaced = s.spaced := rfl
    rw [whole, spaced, behindSpace_append last, List.head?_append_of_ne_nil _ last]
    exact reads h given

theorem carries_setRange (behind : ∀ c ∈ t.head?, c = '|') :
    Carries atEnd t 0 start setRange setRange := by
  unfold setRange
  refine (carries_setPart behind).andThen fun first => carries_skipSpace.andThen fun _ =>
    carries_char fun c => ?_
  refine carries_peekSecond (fun _ here => unfinished_of_head? here.2) (fun second => ?_)
    fun s last => ?_
  · split
    · exact carries_partTerm first
    · refine carries_bumpSpace_of_head.andThen fun _ => carries_char fun _ => ?_
      refine ((carries_setPart behind).andThen fun last => ?_)
      refine (carries_partChar first).andThen fun low =>
        (carries_partChar last).andThen fun high => ?_
      exact Carries.failIf fun _ => Carries.pure _
  · by_cases hyphen : c = '-'
    · refine Or.inl ?_
      rw [if_neg (by simp [hyphen]), StateT.run_bind, run_bumpSpace, last]
      rfl
    · refine Or.inr fun second => ?_
      rw [if_pos (Or.inl hyphen), if_pos (Or.inl hyphen)]

def className? (cs : List Char) : Option (String × List Char) :=
  match cs.drop (cs.takeWhile (· ≠ ':')).length with
  | ':' :: ']' :: rest =>
    if String.ofList (cs.takeWhile (· ≠ ':')) ∈ asciiNames then
      some (String.ofList (cs.takeWhile (· ≠ ':')), rest)
    else none
  | _ => none

def behindCaret (cs : List Char) : List Char := if cs.head? = some '^' then cs.drop 1 else cs

theorem run_asciiClass? {s : Reading} {rest : List Char} (here : s.rest = '[' :: ':' :: rest) :
    asciiClass?.run s = some (match className? (behindCaret rest) with
      | some (name, rest') => (some (.ascii name (rest.head? = some '^')), { s with rest := rest' })
      | none => (none, s)) := by
  have step : asciiClass?.run s =
      (match (behindCaret rest).drop ((behindCaret rest).takeWhile (· ≠ ':')).length with
      | ':' :: ']' :: rest' =>
        if String.ofList ((behindCaret rest).takeWhile (· ≠ ':')) ∈ asciiNames then do
          set { s with rest := rest' }
          return some (.ascii (String.ofList ((behindCaret rest).takeWhile (· ≠ ':')))
            (rest.head? = some '^'))
        else return none
      | _ => return none : Read (Option SetTerm)).run s := by
    unfold asciiClass?
    simp only [StateT.run_bind, StateT.run_get, pure_bind, here]
    rfl
  rw [step]
  generalize behindCaret rest = inner
  unfold className?
  split
  · split <;> rfl
  · rfl

theorem run_asciiClass?_of_ne {s : Reading} (other : ∀ rest, s.rest ≠ '[' :: ':' :: rest) :
    asciiClass?.run s = some (none, s) := by
  unfold asciiClass?
  simp only [StateT.run_bind, StateT.run_get, pure_bind]
  rfl

theorem eq_of_asciiClass?_none {s s' : Reading} (run : asciiClass?.run s = some (none, s')) :
    s' = s := by
  by_cases colon : ∃ rest, s.rest = '[' :: ':' :: rest
  · obtain ⟨rest, named⟩ := colon
    rw [run_asciiClass? named] at run
    cases found : className? (behindCaret rest) with
    | none =>
      rw [found] at run
      cases run
      rfl
    | some closed =>
      rw [found] at run
      cases run
  · rw [run_asciiClass?_of_ne fun rest named => colon ⟨rest, named⟩] at run
    cases run
    rfl

theorem behindCaret_append (behind : ∀ c ∈ t.head?, c = '|') (cs : List Char) :
    behindCaret (cs ++ t) = behindCaret cs ++ t := by
  unfold behindCaret
  cases cs with
  | nil =>
    have other : t.head? ≠ some '^' := fun caret => absurd (behind _ caret) (by decide)
    simp [other]
  | cons c cs =>
    simp only [List.cons_append, List.head?_cons, List.drop_succ_cons, List.drop_zero]
    split <;> rfl

theorem bar_not_mem_asciiNames {name : String} (known : name ∈ asciiNames) : '|' ∉ name.toList := by
  revert name
  decide

theorem className?_of_ne {cs : List Char}
    (other : ∀ rest, cs.drop (cs.takeWhile (· ≠ ':')).length ≠ ':' :: ']' :: rest) :
    className? cs = none := by
  unfold className?
  split
  · rename_i closed
    exact absurd closed (other _)
  · rfl

theorem className?_of_closed {cs rest : List Char}
    (closed : cs.drop (cs.takeWhile (· ≠ ':')).length = ':' :: ']' :: rest) :
    className? cs = if String.ofList (cs.takeWhile (· ≠ ':')) ∈ asciiNames then
      some (String.ofList (cs.takeWhile (· ≠ ':')), rest) else none := by
  unfold className?
  rw [closed]
  rfl

theorem className?_append (behind : ∀ c ∈ t.head?, c = '|') (cs : List Char) :
    className? (cs ++ t) = (className? cs).map fun p => (p.1, p.2 ++ t) := by
  by_cases unclosed : cs.drop (cs.takeWhile (· ≠ ':')).length = []
  · have never : className? cs = none := className?_of_ne fun rest closed => by
      rw [unclosed] at closed
      cases closed
    rw [never, Option.map_none]
    cases t with
    | nil => rw [List.append_nil, never]
    | cons c q =>
      -- The name goes on with a bar, which no class has in its name.
      have all : cs.takeWhile (· ≠ ':') = cs :=
        (List.takeWhile_prefix _).eq_of_length_le (List.drop_eq_nil_iff.mp unclosed)
      have bar : c = '|' := behind c rfl
      have inside : '|' ∈ (cs ++ c :: q).takeWhile (· ≠ ':') := by
        rw [List.takeWhile_append, if_pos (by rw [all]), bar]
        simp
      unfold className?
      split
      · rw [if_neg]
        intro known
        have clear := bar_not_mem_asciiNames known
        rw [String.toList_ofList] at clear
        exact clear inside
      · rfl
  · have name := (List.takeWhile_sublist (· ≠ ':') (l := cs)).length_le
    have same := takeWhile_append_of_drop unclosed t
    have further : (cs ++ t).drop ((cs ++ t).takeWhile (· ≠ ':')).length =
        cs.drop (cs.takeWhile (· ≠ ':')).length ++ t := by
      rw [same, List.drop_append_of_le_length name]
    by_cases closed : ∃ rest, cs.drop (cs.takeWhile (· ≠ ':')).length = ':' :: ']' :: rest
    · obtain ⟨rest, closed⟩ := closed
      have closed' : (cs ++ t).drop ((cs ++ t).takeWhile (· ≠ ':')).length =
          ':' :: ']' :: (rest ++ t) := by
        rw [further, closed]
        rfl
      rw [className?_of_closed closed, className?_of_closed closed', same]
      split <;> rfl
    · have other : ∀ rest, cs.drop (cs.takeWhile (· ≠ ':')).length ≠ ':' :: ']' :: rest :=
        fun rest here => closed ⟨rest, here⟩
      rw [className?_of_ne other, className?_of_ne]
      · rfl
      · intro rest here
        rw [further] at here
        cases next : cs.drop (cs.takeWhile (· ≠ ':')).length with
        | nil => exact unclosed next
        | cons c after =>
          rw [next] at here
          cases after with
          | nil =>
            have follows : t = ']' :: rest := (List.cons.inj here).2
            have bar := behind ']' (by rw [follows]; rfl)
            cases bar
          | cons d after =>
            obtain ⟨rfl, more⟩ := List.cons.inj here
            have second : d = ']' := (List.cons.inj (more : d :: (after ++ t) = ']' :: rest)).1
            subst second
            exact other after next

theorem length_behindCaret_le (cs : List Char) : (behindCaret cs).length ≤ cs.length := by
  unfold behindCaret
  split
  · rw [List.length_drop]
    exact Nat.sub_le _ _
  · exact Nat.le_refl _

theorem length_of_className? {cs rest : List Char} {name : String}
    (found : className? cs = some (name, rest)) :
    rest.length ≤ cs.length := by
  unfold className? at found
  split at found
  · rename_i closed
    split at found
    · cases found
      have lengths := congrArg List.length closed
      rw [List.length_drop, List.length_cons, List.length_cons] at lengths
      omega
    · cases found
  · cases found

theorem carries_asciiClass? (behind : ∀ c ∈ t.head?, c = '|') :
    Carries atEnd t 0 (fun s => start s ∧ s.rest.head? = some '[') asciiClass? asciiClass? := by
  refine Carries.of_nameless fun s a s' here run => ?_
  have unfinished := unfinished_of_head? here.2
  by_cases colon : ∃ rest, s.rest = '[' :: ':' :: rest
  · obtain ⟨rest, named⟩ := colon
    have further : ∀ given, (s.before t given).rest = '[' :: ':' :: (rest ++ t) := fun given => by
      rw [Reading.before, named]
      rfl
    have sign : (rest ++ t).head? = some '^' ↔ rest.head? = some '^' := by
      cases rest with
      | nil => exact ⟨fun caret => absurd (behind _ caret) (by decide), fun none => by cases none⟩
      | cons c rest => exact Iff.rfl
    rw [run_asciiClass? named] at run
    cases found : className? (behindCaret rest) with
    | none =>
      rw [found] at run
      cases run
      refine ⟨rfl, Nat.le_refl _, fun h => ⟨h, fun given => ?_⟩⟩
      rw [run_asciiClass? (further given), behindCaret_append behind,
        className?_append behind, found]
      rfl
    | some closed =>
      rw [found] at run
      cases run
      refine ⟨rfl, ?_, fun h => ⟨Or.inr (Or.inl unfinished), fun given => ?_⟩⟩
      · have one := length_of_className? found
        have two := length_behindCaret_le rest
        rw [named, List.length_cons, List.length_cons]
        dsimp only
        omega
      · rw [run_asciiClass? (further given), behindCaret_append behind,
          className?_append behind, found]
        simp only [sign]
        rfl
  · have other : ∀ rest, s.rest ≠ '[' :: ':' :: rest := fun rest named => colon ⟨rest, named⟩
    rw [run_asciiClass?_of_ne other] at run
    cases run
    refine ⟨rfl, Nat.le_refl _, fun h =>
      ⟨h, fun given => run_asciiClass?_of_ne fun rest named => ?_⟩⟩
    obtain ⟨inside, next⟩ := List.head?_eq_some_iff.mp here.2
    have whole : '[' :: (inside ++ t) = '[' :: ':' :: rest := by
      rw [← List.cons_append, ← next]
      exact named
    have named := (List.cons.inj whole).2
    cases inside with
    | nil =>
      have bar := behind ':' (by rw [show t = ':' :: rest from named]; rfl)
      cases bar
    | cons c inside =>
      obtain ⟨rfl, _⟩ := List.cons.inj named
      exact other inside next

theorem carries_operation? (behind : ∀ c ∈ t.head?, c = '|') :
    Carries atEnd t 0 start operation? operation? := by
  unfold operation?
  refine (carries_skipIf behind (by decide) (by decide)).andThen fun met => ?_
  split
  · exact Carries.pure _
  · refine (carries_skipIf behind (by decide) (by decide)).andThen fun met => ?_
    split
    · exact Carries.pure _
    · refine (carries_skipIf behind (by decide) (by decide)).andThen fun met => ?_
      split
      · exact Carries.pure _
      · exact Carries.pure _

def inBrackets (negated : Bool) (fuel : Nat) : Read SetTerm := do
  let hyphens ← many (· == '-') (← Read.fuel)
  let c ← char
  let first := hyphens.map fun h => SetTerm.char h false
  let first ← if hyphens.isEmpty && c == ']' then do
      bumpSpace
      let _ ← char
      pure [SetTerm.char ']' false]
    else pure first
  return .brackets negated (← setTerms none first fuel)

theorem carries_inBrackets {n m : Nat} (negated : Bool)
    (terms : ∀ before, Carries atEnd t 0 (fun _ => True) (setTerms none before n)
      (setTerms none before m)) :
    Carries atEnd t 0 start (inBrackets negated n) (inBrackets negated m) := by
  unfold inBrackets
  refine carries_many_within (fun hyphens => carries_char fun c => ?_) fun hyphens s none =>
    run_char_bind_nil none
  have close : ∀ before, Carries atEnd t 0 (fun _ => True)
      (do return SetTerm.brackets negated (← setTerms none before n))
      (do return SetTerm.brackets negated (← setTerms none before m)) := fun before =>
    (terms before).andThen fun _ => Carries.pure _
  dsimp only
  split
  · exact carries_bumpSpace_of_head.andThen fun _ => carries_char fun _ =>
      (close _).of_start fun _ _ => trivial
  · exact (close _).of_start fun _ _ => trivial

/-- The reader of brackets, and the one of what stands in them, with less and with more fuel. -/
theorem carries_set (behind : ∀ c ∈ t.head?, c = '|') {n m : Nat} (enough : n ≤ m) :
    Carries atEnd t 1 Reading.Unfinished (brackets n) (brackets m) ∧
      ∀ pending before, Carries atEnd t 0 (fun _ => True) (setTerms pending before n)
        (setTerms pending before m) := by
  induction n generalizing m with
  | zero => exact ⟨Carries.failure, fun _ _ => Carries.failure⟩
  | succ n ih =>
    obtain ⟨m, rfl⟩ := Nat.exists_eq_succ_of_ne_zero (Nat.ne_zero_of_lt enough)
    obtain ⟨inner, terms⟩ := ih (Nat.le_of_succ_le_succ enough)
    constructor
    · rw [brackets, brackets]
      refine carries_bumpSpace.opens fun _ => carries_char fun c => ?_
      have content : ∀ {start}, Carries atEnd t 0 start _ _ :=
        carries_inBrackets (decide (c = '^')) (terms none)
      dsimp only
      split
      · exact carries_bumpSpace_of_head.andThen fun _ => content
      · exact content
    · intro pending before
      rw [setTerms, setTerms]
      refine carries_skipSpace.andThen fun _ => carries_char fun c => ?_
      split
      · rename_i bracket
        subst bracket
        have inner' : Carries atEnd t 0 (fun s => s.rest.head? = some '[')
            (brackets n) (brackets m) :=
          (inner.of_start fun s here => unfinished_of_head? here).of_used (Nat.zero_le 1)
        have leaves : ∀ s found s', True ∧ s.rest.head? = some '[' →
            asciiClass?.run s = some (found, s') →
            found = none → s'.rest.head? = some '[' := by
          intro s found s' here run none
          rw [none] at run
          rw [eq_of_asciiClass?_none run]
          exact here.2
        refine (carries_asciiClass? behind).opensIn leaves fun found => ?_
        cases found with
        | some s => exact (terms _ _).of_start fun _ _ => trivial
        | none => exact (inner'.of_start fun s here => here rfl).andThen fun s => terms _ _
      · split
        · exact carries_bump_of_head.andThen fun _ => Carries.pure _
        · refine (carries_operation? behind).andThen fun op => ?_
          cases op with
          | some op => exact terms _ _
          | none => exact (carries_setRange behind).andThen fun s => terms _ _

theorem carries_fuel {f g : Nat → Read α}
    (next : ∀ n m, n ≤ m → Carries atEnd t used start (f n) (g m)) :
    Carries atEnd t used start (fuel >>= f) (fuel >>= g) := by
  intro s a s' here run
  have enough : s.rest.length + 1 ≤ (s.rest ++ t).length + 1 := by
    rw [List.length_append]
    omega
  exact next _ _ enough s a s' here run

theorem carries_flagChange {n m : Nat} (enough : n ≤ m) (on : Bool) (seen : List Char) :
    Carries atEnd t 0 start (flagChange on seen n) (flagChange on seen m) := by
  induction n generalizing m on seen start with
  | zero => exact Carries.failure
  | succ n ih =>
    obtain ⟨m, rfl⟩ := Nat.exists_eq_succ_of_ne_zero (Nat.ne_zero_of_lt enough)
    rw [flagChange, flagChange]
    refine carries_char fun c => ?_
    split
    · exact Carries.pure _
    · refine carries_bump_of_head.andThen fun _ => ?_
      split
      · exact carries_char fun _ => Carries.failIf fun _ => ih (Nat.le_of_succ_le_succ enough) _ _
      · exact Carries.failIf fun _ => carries_char fun _ =>
          (ih (Nat.le_of_succ_le_succ enough) _ _).andThen fun _ => Carries.pure _

def closeBounds (range : Nat × Option Nat) : Read (Nat × Option Nat) := do
  if (← char) ≠ '\x7d' then failure
  match range.2 with
  | some most => if most < range.1 then failure
  | none => pure ()
  return range

theorem carries_closeBounds (range : Nat × Option Nat) :
    Carries atEnd t 0 start (closeBounds range) (closeBounds range) := by
  unfold closeBounds
  refine carries_char fun _ => Carries.failIf fun _ => ?_
  dsimp only
  split
  · exact Carries.failIf fun _ => Carries.pure _
  · exact Carries.pure _

theorem run_closeBounds_nil (range : Nat × Option Nat) {s : Reading} (none : s.rest = []) :
    (closeBounds range).run s = .none := run_char_bind_nil none

def upperBound (least : Nat) : Read (Nat × Option Nat) := do
  if (← char) = '\x7d' then closeBounds (least, none)
  else
    match ← decimal? with
    | some most => closeBounds (least, some most)
    | none => failure

theorem carries_upperBound (least : Nat) :
    Carries atEnd t 0 start (upperBound least) (upperBound least) := by
  unfold upperBound
  refine carries_char fun c => ?_
  split
  · exact carries_closeBounds (least, none)
  · refine carries_decimal?.within (fun most => ?_) fun most s none => ?_
    · cases most with
      | none => exact Carries.failure
      | some most => exact carries_closeBounds (least, some most)
    · cases most with
      | none => rfl
      | some most => exact run_closeBounds_nil (least, some most) none

theorem carries_bounds : Carries atEnd t 1 Reading.Unfinished bounds bounds := by
  unfold bounds
  refine carries_bumpSpace.opens fun _ => carries_char fun c => ?_
  refine carries_decimal?.within (fun least => carries_char fun c => ?_) fun least s none =>
    run_char_bind_nil none
  dsimp only
  split
  · cases least with
    | none => exact Carries.failure_bind
    | some n => exact carries_closeBounds (n, some n)
  · refine carries_bumpSpace_of_head.andThen fun _ => ?_
    cases least with
    | none => exact Carries.failure_bind
    | some n => exact carries_upperBound n

theorem run_bind_of_forall {P : Reading → Prop} {β : Type} {x : Read α} {f : α → Read β}
    (last : ∀ a s b s', (f a).run s = some (b, s') → P s') {s : Reading} {b : β} {s' : Reading}
    (run : (x >>= f).run s = some (b, s')) : P s' := by
  obtain ⟨a, between, _, second⟩ := Carries.run_bind run
  exact last a between b s' second

theorem unfinished_of_closeBounds (range : Nat × Option Nat) {result : Nat × Option Nat}
    {s s' : Reading} (run : (closeBounds range).run s = some (result, s')) : s'.Unfinished := by
  unfold closeBounds at run
  obtain ⟨c, between, first, second⟩ := Carries.run_bind run
  rw [run_char] at first
  obtain ⟨_, head, same⟩ := Option.map_eq_some_iff.mp first
  cases same
  have unchanged : s' = s := by
    dsimp only at second
    split at second
    · cases second
    · split at second
      · split at second
        · cases second
        · cases second
          rfl
      · cases second
        rfl
  rw [unchanged]
  exact unfinished_of_head? head

theorem unfinished_of_upperBound (least : Nat) {range : Nat × Option Nat} {s s' : Reading}
    (run : (upperBound least).run s = some (range, s')) : s'.Unfinished := by
  unfold upperBound at run
  refine run_bind_of_forall (fun c s range s' run => ?_) run
  split at run
  · exact unfinished_of_closeBounds (least, none) run
  · refine run_bind_of_forall (fun most s range s' run => ?_) run
    cases most with
    | none => cases run
    | some most => exact unfinished_of_closeBounds (least, some most) run

theorem unfinished_of_bounds {range : Nat × Option Nat} {s s' : Reading}
    (run : bounds.run s = some (range, s')) : s'.Unfinished := by
  unfold bounds at run
  refine run_bind_of_forall (fun _ s range s' run => ?_) run
  refine run_bind_of_forall (fun _ s range s' run => ?_) run
  refine run_bind_of_forall (fun least s range s' run => ?_) run
  refine run_bind_of_forall (fun c s range s' run => ?_) run
  dsimp only at run
  split at run
  · cases least with
    | none => cases run
    | some n => exact unfinished_of_closeBounds (n, some n) run
  · refine run_bind_of_forall (fun _ s range s' run => ?_) run
    cases least with
    | none => cases run
    | some n => exact unfinished_of_upperBound n run

theorem carries_primitive (behind : ∀ c ∈ t.head?, c = '|') :
    Carries atEnd t 1 start primitive primitive := by
  unfold primitive
  refine carries_char fun c => ?_
  dsimp only
  split
  · exact (carries_escape_of_head behind).opens fun p => Carries.pure _
  · exact carries_bump_of_head.opens fun p => Carries.pure _

end ClusterSurvey.Pattern.Read
