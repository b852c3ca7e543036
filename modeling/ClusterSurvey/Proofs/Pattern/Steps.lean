import ClusterSurvey.Proofs.Pattern.Carrying

/-!
White space, single characters, numbers and escapes in front of more text. What follows begins with
a bar, if there is anything, and none of the readers takes a bar for a part of what it reads.
-/
namespace ClusterSurvey.Pattern.Read

theorem afterSpace_nil (fuel : Nat) : afterSpace fuel [] = [] := by
  cases fuel <;> rfl

theorem length_afterSpace_le (fuel : Nat) (cs : List Char) :
    (afterSpace fuel cs).length ≤ cs.length := by
  induction fuel generalizing cs with
  | zero => exact Nat.le_refl _
  | succ fuel ih =>
    have blanks := (List.dropWhile_sublist (p := Text.isBlank) (l := cs)).length_le
    rw [afterSpace]
    split
    · rename_i rest comment
      rw [comment, List.length_cons] at blanks
      have line := (List.dropWhile_sublist (p := (· ≠ '\n')) (l := rest)).length_le
      have last := ih ((rest.dropWhile (· ≠ '\n')).drop 1)
      rw [List.length_drop] at last
      omega
    · exact blanks

theorem dropWhile_append_of_ne_nil {p : Char → Bool} {cs : List Char} (some : cs.dropWhile p ≠ [])
    (t : List Char) :
    (cs ++ t).dropWhile p = cs.dropWhile p ++ t := by
  rw [List.dropWhile_append, if_neg (by simpa using some)]

theorem afterSpace_of_comment {cs rest : List Char}
    (next : cs.dropWhile Text.isBlank = '#' :: rest) (fuel : Nat) :
    afterSpace (fuel + 1) cs = afterSpace fuel ((rest.dropWhile (· ≠ '\n')).drop 1) := by
  rw [afterSpace, next]
  rfl

theorem afterSpace_of_other {cs : List Char}
    (next : ∀ rest, cs.dropWhile Text.isBlank ≠ '#' :: rest) (fuel : Nat) :
    afterSpace (fuel + 1) cs = cs.dropWhile Text.isBlank := by
  rw [afterSpace]
  split
  · rename_i comment
    exact absurd comment (next _)
  · rfl

/-- White space ends in front of the same place if there is such a place before what follows. -/
theorem afterSpace_append {n m : Nat} {cs : List Char} (t : List Char) (short : cs.length ≤ n)
    (long : cs.length + t.length ≤ m) (some : afterSpace n cs ≠ []) :
    afterSpace m (cs ++ t) = afterSpace n cs ++ t := by
  induction n generalizing cs m with
  | zero =>
    rw [List.length_eq_zero_iff.mp (Nat.le_zero.mp short)] at some
    exact absurd rfl some
  | succ n ih =>
    have behind : cs.dropWhile Text.isBlank ≠ [] := by
      intro none
      rw [afterSpace, none] at some
      exact some rfl
    have blanks := (List.dropWhile_sublist (p := Text.isBlank) (l := cs)).length_le
    obtain ⟨c, rest, next⟩ := List.exists_cons_of_ne_nil behind
    have further := dropWhile_append_of_ne_nil behind t
    rw [next, List.length_cons] at blanks
    rw [next, List.cons_append] at further
    cases m with
    | zero => omega
    | succ m =>
      by_cases comment : c = '#'
      · subst comment
        rw [afterSpace_of_comment next] at some ⊢
        rw [afterSpace_of_comment further]
        have more : rest.dropWhile (· ≠ '\n') ≠ [] := by
          intro none
          rw [none] at some
          exact some (afterSpace_nil n)
        have line := (List.dropWhile_sublist (p := (· ≠ '\n')) (l := rest)).length_le
        have ended : 0 < (rest.dropWhile (· ≠ '\n')).length := List.length_pos_of_ne_nil more
        rw [dropWhile_append_of_ne_nil more, List.drop_append_of_le_length ended]
        refine ih ?_ ?_ some
        · rw [List.length_drop]
          omega
        · rw [List.length_drop]
          omega
      · rw [afterSpace_of_other fun _ same => comment (List.cons.inj (next.symm.trans same)).1,
          afterSpace_of_other fun _ same => comment (List.cons.inj (further.symm.trans same)).1,
          next, further,
          List.cons_append]

/-! Single steps. -/

section Steps

variable {α : Type} {atEnd : Bool} {t : List Char} {used : Nat} {start : Reading → Prop}

theorem run_char (s : Reading) : char.run s = s.rest.head?.map (·, s) := by
  cases h : s.rest.head? with
  | none =>
    simp only [char, peek, StateT.run_bind, StateT.run_get, pure_bind, StateT.run_pure,
      Option.map_none, h]
    rfl
  | some c => simp [char, peek, h]

theorem run_bind_char {s : Reading} {c : Char} (here : s.rest.head? = some c) (f : Char → Read α) :
    (char >>= f).run s = (f c).run s := by
  rw [StateT.run_bind, run_char, here]
  rfl

theorem head?_append {cs : List Char} {c : Char} (here : cs.head? = some c) (t : List Char) :
    (cs ++ t).head? = some c := by
  rw [List.head?_append, here]
  rfl

theorem unfinished_of_head? {s : Reading} {c : Char} (here : s.rest.head? = some c) :
    s.Unfinished :=
  List.ne_nil_of_mem (List.mem_of_mem_head? here)

theorem carries_char {f g : Char → Read α}
    (next : ∀ c, Carries atEnd t used (fun s => start s ∧ s.rest.head? = some c) (f c) (g c)) :
    Carries atEnd t used start (char >>= f) (char >>= g) := by
  intro s a s' here run
  obtain ⟨c, s₁, first, second⟩ := Carries.run_bind run
  rw [run_char] at first
  obtain ⟨_, head, same⟩ := Option.map_eq_some_iff.mp first
  cases same
  obtain ⟨named, passed, reads⟩ := next c s a s' ⟨here, head⟩ second
  refine ⟨named, passed, fun h given => ?_⟩
  rw [run_bind_char (head?_append head t)]
  exact reads h given

theorem carries_bump : Carries atEnd t 1 Reading.Unfinished bump bump := by
  refine Carries.of_nameless fun s _ s' some run => ?_
  obtain ⟨c, rest, next⟩ := List.exists_cons_of_ne_nil some
  cases run
  refine ⟨rfl, ?_, fun _ => ⟨Or.inr (Or.inl some), fun given => ?_⟩⟩
  · simp [next]
  · simp [bump, Reading.before, next]

theorem run_skipSpace (s : Reading) :
    skipSpace.run s =
      some ((), if s.spaced then { s with rest := afterSpace s.rest.length s.rest } else s) := rfl

theorem skipSpace_before (atEnd : Bool) (t : List Char) {s s' : Reading}
    (run : skipSpace.run s = some ((), s')) :
    s'.names = s.names ∧ s'.rest.length ≤ s.rest.length ∧ (s'.Apart atEnd t → s.Apart atEnd t ∧
      ∀ given, skipSpace.run (s.before t given) = some ((), s'.before t given)) := by
  rw [run_skipSpace] at run
  cases run
  by_cases spaced : s.spaced = true
  · rw [if_pos spaced]
    have shorter := length_afterSpace_le s.rest.length s.rest
    refine ⟨rfl, shorter, fun h => ?_⟩
    rcases h with nothing | some | ⟨_, unspaced⟩
    · subst nothing
      refine ⟨Or.inl rfl, fun given => ?_⟩
      simp [run_skipSpace, Reading.before, spaced]
    · refine ⟨Or.inr (Or.inl fun none => some (by rw [none]; rfl)), fun given => ?_⟩
      have further := afterSpace_append t (Nat.le_refl _) (Nat.le_refl _) some
      simp [run_skipSpace, Reading.before, spaced, further]
    · exact absurd unspaced (by simp [spaced])
  · rw [if_neg spaced]
    exact ⟨rfl, Nat.le_refl _, fun h =>
      ⟨h, fun given => by simp [run_skipSpace, Reading.before, spaced]⟩⟩

theorem carries_skipSpace : Carries atEnd t 0 start skipSpace skipSpace :=
  Carries.of_nameless fun _ _ _ _ run => skipSpace_before atEnd t run

theorem carries_bumpSpace : Carries atEnd t 1 Reading.Unfinished bumpSpace bumpSpace :=
  carries_bump.opens fun _ => carries_skipSpace

theorem isPrefixOf_append {word cs t : List Char} (behind : ∀ c ∈ t.head?, c = '|')
    (clear : '|' ∉ word) :
    word.isPrefixOf (cs ++ t) = word.isPrefixOf cs := by
  induction word generalizing cs with
  | nil => cases cs <;> cases t <;> rfl
  | cons w word ih =>
    have clear' := List.not_mem_of_not_mem_cons clear
    cases cs with
    | cons c cs =>
        rw [List.cons_append, List.isPrefixOf_cons_cons, List.isPrefixOf_cons_cons, ih clear']
    | nil =>
      cases t with
      | nil => rfl
      | cons c t =>
        have bar : w ≠ c := fun same => clear (by rw [same, behind c rfl]; exact List.mem_cons_self)
        rw [List.nil_append, List.isPrefixOf_cons_cons, beq_eq_false_iff_ne.mpr bar]
        rfl

theorem run_skipIf (word : List Char) (s : Reading) :
    (skipIf word).run s =
      some (if word.isPrefixOf s.rest then (true, { s with rest := s.rest.drop word.length })
      else (false, s)) := by
  have step : (skipIf word).run s = (if word.isPrefixOf s.rest then do
      set { s with rest := s.rest.drop word.length }
      return true
    else return false : Read Bool).run s := rfl
  rw [step]
  split <;> rfl

theorem carries_skipIf (behind : ∀ c ∈ t.head?, c = '|') {word : List Char} (some : word ≠ [])
    (clear : '|' ∉ word) :
    Carries atEnd t 0 start (skipIf word) (skipIf word) := by
  refine Carries.of_nameless fun s a s' _ run => ?_
  rw [run_skipIf] at run
  by_cases next : word.isPrefixOf s.rest = true
  · rw [if_pos next] at run
    cases run
    have front := List.isPrefixOf_iff_prefix.mp next
    have unfinished : s.rest ≠ [] := fun none => some (List.prefix_nil.mp (none ▸ front))
    refine ⟨rfl, ?_, fun _ => ⟨Or.inr (Or.inl unfinished), fun given => ?_⟩⟩
    · simp
    · rw [run_skipIf, Reading.before, isPrefixOf_append behind clear, if_pos next,
        List.drop_append_of_le_length front.length_le]
      rfl
  · rw [if_neg next] at run
    cases run
    refine ⟨rfl, Nat.le_refl _, fun h => ⟨h, fun given => ?_⟩⟩
    rw [run_skipIf, Reading.before, isPrefixOf_append behind clear, if_neg next]

theorem carries_peek {f g : Option Char → Read α}
    (next : ∀ c, Carries false t used (fun s => start s ∧ s.rest.head? = c) (f c) (g c)) :
    Carries false t used start (peek >>= f) (peek >>= g) := by
  intro s a s' here run
  have second : (f s.rest.head?).run s = some (a, s') := run
  obtain ⟨named, passed, reads⟩ := next s.rest.head? s a s' ⟨here, rfl⟩ second
  refine ⟨named, passed, fun h given => ?_⟩
  have head : (s.before t given).rest.head? = s.rest.head? := by
    rcases passed.apart h with nothing | unfinished | ⟨never, _⟩
    · rw [Reading.before, nothing, List.append_nil]
    · rw [Reading.before, List.head?_append_of_ne_nil _ unfinished]
    · cases never
  have same : (peek >>= g).run (s.before t given) = (g s.rest.head?).run (s.before t given) :=
    congrArg (fun c => (g c).run (s.before t given)) head
  rw [same]
  exact reads h given

theorem carries_bumpSpace_of_head {c : Char} :
    Carries atEnd t 1 (fun s => start s ∧ s.rest.head? = some c) bumpSpace bumpSpace :=
  carries_bumpSpace.of_start fun _ here => unfinished_of_head? here.2

theorem carries_bump_of_head {c : Char} :
    Carries atEnd t 1 (fun s => start s ∧ s.rest.head? = some c) bump bump :=
  carries_bump.of_start fun _ here => unfinished_of_head? here.2

theorem carries_many (p : Char → Bool) {n m : Nat} :
    Carries false t 0 (fun s => s.rest.length < n ∧ s.rest.length + t.length < m) (many p n)
      (many p m) := by
  induction n generalizing m with
  | zero => exact fun s _ _ enough => absurd enough.1 (Nat.not_lt_zero _)
  | succ n ih =>
    cases m with
    | zero => exact fun s _ _ enough => absurd enough.2 (Nat.not_lt_zero _)
    | succ m =>
      refine carries_peek fun c => ?_
      cases c with
      | none => exact Carries.pure []
      | some c =>
        by_cases fits : p c = true
        · simp only [fits, if_true]
          have bumps : Carries false t 1
              (fun s => (s.rest.length < n + 1 ∧ s.rest.length + t.length < m + 1) ∧
              s.rest.head? = some c) bumpSpace bumpSpace := carries_bumpSpace_of_head
          have leaves : ∀ s (a : Unit) s',
              (s.rest.length < n + 1 ∧ s.rest.length + t.length < m + 1) ∧
              s.rest.head? = some c → bumpSpace.run s = some (a, s') →
              s'.rest.length < n ∧ s'.rest.length + t.length < m := by
            intro s _ s' here run
            have shorter := bumps.shorter here run
            omega
          exact (bumps.bind leaves fun _ => ih.andThen fun cs =>
            Carries.pure (c :: cs)).of_used (Nat.zero_le _)
        · simp only [fits]
          exact Carries.pure []

theorem carries_fuel_many (p : Char → Bool) :
    Carries false t 0 start (fuel >>= many p) (fuel >>= many p) := by
  intro s a s' here run
  have enough : s.rest.length + t.length < (s.rest ++ t).length + 1 := by
    rw [List.length_append]
    exact Nat.lt_succ_self _
  exact carries_many p s a s' ⟨Nat.lt_succ_self _, enough⟩ run

theorem carries_many_andThen {p : Char → Bool} {f g : List Char → Read α}
    (second : ∀ cs, Carries false t used (fun _ => True) (f cs) (g cs)) :
    Carries false t used start (fuel >>= fun n => many p n >>= f)
      (fuel >>= fun n => many p n >>= g) := by
  have both : Carries false t used start ((fuel >>= many p) >>= f) ((fuel >>= many p) >>= g) :=
    (carries_fuel_many p).andThen second
  simpa only [bind_assoc] using both

theorem carries_many_within {p : Char → Bool} {f g : List Char → Read α}
    (second : ∀ cs, Carries atEnd t used (fun _ => True) (f cs) (g cs))
    (needs : ∀ cs s, s.rest = [] → (f cs).run s = none) :
    Carries atEnd t used start (fuel >>= fun n => many p n >>= f)
      (fuel >>= fun n => many p n >>= g) := by
  have both : Carries atEnd t used start ((fuel >>= many p) >>= f) ((fuel >>= many p) >>= g) :=
    (carries_fuel_many p).within second needs
  simpa only [bind_assoc] using both

theorem run_char_bind_nil {f : Char → Read α} {s : Reading} (none : s.rest = []) :
    (char >>= f).run s = .none := by
  rw [StateT.run_bind, run_char, none]
  rfl

theorem carries_skipBlanks : Carries false t 0 start skipBlanks skipBlanks := by
  refine Carries.of_nameless fun s _ s' _ run => ?_
  cases run
  refine ⟨rfl, (List.dropWhile_sublist _).length_le, fun h => ?_⟩
  rcases h with nothing | some | ⟨never, _⟩
  · subst nothing
    exact ⟨Or.inl rfl, fun given => by simp [skipBlanks, Reading.before]⟩
  · refine ⟨Or.inr (Or.inl fun none => some ?_), fun given => ?_⟩
    · dsimp only
      rw [none]
      rfl
    · have further := dropWhile_append_of_ne_nil some t
      simp [skipBlanks, Reading.before, further]
  · cases never

theorem carries_decimal? : Carries false t 0 start decimal? decimal? := by
  unfold decimal?
  refine carries_skipBlanks.andThen fun _ => carries_many_andThen fun ds => ?_
  refine carries_skipBlanks.andThen fun _ => carries_skipSpace.andThen fun _ => ?_
  dsimp only
  split
  · exact Carries.pure none
  · split
    · exact Carries.pure _
    · exact Carries.failure

theorem carries_ofHex (ds : List Char) : Carries atEnd t 0 start (ofHex ds) (ofHex ds) := by
  unfold ofHex
  refine Carries.failIf fun _ => ?_
  dsimp only
  split
  · rename_i n _
    by_cases valid : n.isValidChar
    · rw [dif_pos valid]
      exact Carries.pure _
    · rw [dif_neg valid]
      exact Carries.failure
  · exact Carries.failure

theorem carries_exactly (n : Nat) : Carries atEnd t 0 start (exactly n) (exactly n) := by
  induction n generalizing start with
  | zero => exact Carries.pure []
  | succ n ih =>
    exact carries_char fun c => carries_bumpSpace_of_head.andThen fun _ => ih.andThen fun cs =>
      Carries.pure (c :: cs)

theorem carries_hexEscape (width : Nat) :
    Carries atEnd t 1 Reading.Unfinished (hexEscape width) (hexEscape width) := by
  unfold hexEscape
  refine carries_bumpSpace.opens fun _ => carries_char fun c => ?_
  split
  · refine carries_bumpSpace_of_head.andThen fun _ =>
      carries_many_within (fun ds => carries_char fun c => Carries.failIf fun _ => ?_)
        fun ds s none => run_char_bind_nil none
    exact carries_bump_of_head.andThen fun _ => (carries_ofHex ds).andThen fun c => Carries.pure _
  · exact (carries_exactly width).andThen fun ds =>
      (carries_ofHex ds).andThen fun c => Carries.pure _

theorem carries_property (negated : Bool) :
    Carries atEnd t 1 Reading.Unfinished (property negated) (property negated) := by
  unfold property
  refine carries_bumpSpace.opens fun _ => carries_char fun c => ?_
  split
  · refine carries_bumpSpace_of_head.andThen fun _ =>
      carries_many_within (fun name => carries_char fun c => Carries.failIf fun _ => ?_)
        fun name s none => run_char_bind_nil none
    exact carries_bump_of_head.andThen fun _ => Carries.pure _
  · refine Carries.failIf fun _ => carries_bumpSpace_of_head.andThen fun _ => Carries.pure _

def behindSpace (spaced : Bool) (cs : List Char) : List Char :=
  if spaced then afterSpace cs.length cs else cs

theorem behindSpace_append {spaced : Bool} {cs : List Char} (some : behindSpace spaced cs ≠ [])
    (t : List Char) :
    behindSpace spaced (cs ++ t) = behindSpace spaced cs ++ t := by
  unfold behindSpace at some ⊢
  split
  · rename_i skips
    rw [if_pos skips] at some
    exact afterSpace_append t (Nat.le_refl _) (Nat.le_of_eq List.length_append.symm) some
  · rfl

theorem length_behindSpace_le (spaced : Bool) (cs : List Char) :
    (behindSpace spaced cs).length ≤ cs.length := by
  unfold behindSpace
  split
  · exact length_afterSpace_le _ _
  · exact Nat.le_refl _

theorem takeWhile_append_of_drop {p : Char → Bool} {cs : List Char}
    (some : cs.drop (cs.takeWhile p).length ≠ []) (t : List Char) :
    (cs ++ t).takeWhile p = cs.takeWhile p := by
  rw [List.takeWhile_append, if_neg]
  intro all
  rw [all, List.drop_length] at some
  exact some rfl

def isBoundaryChar (c : Char) : Bool := c.isAlpha || c == '-'

theorem run_boundary_of_ne {s : Reading} (other : s.rest.head? ≠ some '\x7b') :
    boundary.run s = some (.anchor .boundary, s) := by
  unfold boundary
  simp only [StateT.run_bind, StateT.run_get, pure_bind]
  split
  · rename_i rest here
    rw [here] at other
    exact absurd rfl other
  · rfl

def namedBoundary? (spaced : Bool) (cs : List Char) : Option (Anchor × List Char) :=
  match behindSpace spaced (cs.drop (cs.takeWhile isBoundaryChar).length) with
  | '\x7d' :: rest => (boundaryName? (cs.takeWhile isBoundaryChar)).map fun a => (a, rest)
  | _ => none

theorem namedBoundary?_of_closed {spaced : Bool} {cs rest : List Char}
    (closed : behindSpace spaced (cs.drop (cs.takeWhile isBoundaryChar).length) = '\x7d' :: rest) :
    namedBoundary? spaced cs =
      (boundaryName? (cs.takeWhile isBoundaryChar)).map fun a => (a, rest) := by
  unfold namedBoundary?
  rw [closed]
  rfl

theorem namedBoundary?_of_ne {spaced : Bool} {cs : List Char}
    (unclosed : ∀ rest, behindSpace spaced (cs.drop (cs.takeWhile isBoundaryChar).length) ≠
      '\x7d' :: rest) :
    namedBoundary? spaced cs = none := by
  unfold namedBoundary?
  split
  · rename_i closed
    exact absurd closed (unclosed _)
  · rfl

theorem namedBoundary?_append {spaced : Bool} {cs rest : List Char} {a : Anchor}
    (found : namedBoundary? spaced cs = some (a, rest)) (t : List Char) :
    rest.length ≤ cs.length ∧ namedBoundary? spaced (cs ++ t) = some (a, rest ++ t) := by
  by_cases closed : ∃ rest', behindSpace spaced (cs.drop (cs.takeWhile isBoundaryChar).length) =
    '\x7d' :: rest'
  · obtain ⟨rest', closed⟩ := closed
    rw [namedBoundary?_of_closed closed] at found
    obtain ⟨anchor, known, same⟩ := Option.map_eq_some_iff.mp found
    cases same
    have next : behindSpace spaced (cs.drop (cs.takeWhile isBoundaryChar).length) ≠ [] := by
      rw [closed]
      exact List.cons_ne_nil _ _
    have behindName : cs.drop (cs.takeWhile isBoundaryChar).length ≠ [] := by
      intro none
      rw [none] at next
      exact next (by cases spaced <;> rfl)
    have name := (List.takeWhile_sublist isBoundaryChar (l := cs)).length_le
    have less := length_behindSpace_le spaced (cs.drop (cs.takeWhile isBoundaryChar).length)
    rw [closed, List.length_drop, List.length_cons] at less
    have same := takeWhile_append_of_drop behindName t
    have further : behindSpace spaced ((cs ++ t).drop ((cs ++ t).takeWhile isBoundaryChar).length) =
        '\x7d' :: (rest ++ t) := by
      rw [same, List.drop_append_of_le_length name, behindSpace_append next, closed,
        List.cons_append]
    refine ⟨by omega, ?_⟩
    rw [namedBoundary?_of_closed further, same, known]
    rfl
  · rw [namedBoundary?_of_ne fun rest' here => closed ⟨rest', here⟩] at found
    cases found

theorem run_boundary {s : Reading} {rest : List Char} (here : s.rest = '\x7b' :: rest) :
    boundary.run s =
      if !((behindSpace s.spaced rest).head?.any isBoundaryChar) then
        if (behindSpace s.spaced rest).isEmpty then none else some (.anchor .boundary, s)
      else (namedBoundary? s.spaced (behindSpace s.spaced rest)).map
        fun p => (.anchor p.1, { s with rest := p.2 }) := by
  unfold boundary
  simp only [StateT.run_bind, StateT.run_get, pure_bind, here]
  have after : ∀ cs : List Char, (if s.spaced then afterSpace cs.length cs else cs) =
      behindSpace s.spaced cs :=
    fun _ => rfl
  rw [after]
  generalize behindSpace s.spaced rest = inner
  by_cases other : (!(inner.head?.any isBoundaryChar)) = true
  · rw [if_pos other]
    refine (congrArg (fun x : Read Primitive => x.run s) (if_pos other)).trans ?_
    split <;> rfl
  · rw [if_neg other]
    refine (congrArg (fun x : Read Primitive => x.run s) (if_neg other)).trans ?_
    have name : inner.takeWhile (fun c => c.isAlpha || c == '-') = inner.takeWhile isBoundaryChar :=
      rfl
    rw [name, after]
    by_cases closed : ∃ rest',
      behindSpace s.spaced (inner.drop (inner.takeWhile isBoundaryChar).length) =
        '\x7d' :: rest'
    · obtain ⟨rest', closed⟩ := closed
      rw [namedBoundary?_of_closed closed, closed]
      cases boundaryName? (inner.takeWhile isBoundaryChar) <;> rfl
    · have unclosed : ∀ rest', behindSpace s.spaced
          (inner.drop (inner.takeWhile isBoundaryChar).length) ≠
          '\x7d' :: rest' := fun rest' here => closed ⟨rest', here⟩
      rw [namedBoundary?_of_ne unclosed]
      split
      · rename_i closed
        exact absurd closed (unclosed _)
      · rfl

theorem carries_boundary (behind : ∀ c ∈ t.head?, c = '|') :
    Carries atEnd t 0 start boundary boundary := by
  refine Carries.of_nameless fun s a s' _ run => ?_
  by_cases brace : s.rest.head? = some '\x7b'
  · obtain ⟨rest, here⟩ := List.head?_eq_some_iff.mp brace
    have unfinished : s.rest ≠ [] := by rw [here]; exact List.cons_ne_nil _ _
    rw [run_boundary here] at run
    have inside : behindSpace s.spaced rest ≠ [] := by
      intro none
      simp [none] at run
    have further : ∀ given, boundary.run (s.before t given) =
        if !((behindSpace s.spaced rest).head?.any isBoundaryChar) then
          some (.anchor .boundary, s.before t given)
        else (namedBoundary? s.spaced (behindSpace s.spaced rest ++ t)).map
          fun p => (.anchor p.1, ⟨p.2, s.spaced, given⟩) := by
      intro given
      have whole : (s.before t given).rest = '\x7b' :: (rest ++ t) := by
        rw [Reading.before, here, List.cons_append]
      have spaced : (s.before t given).spaced = s.spaced := rfl
      rw [run_boundary whole, spaced, behindSpace_append inside,
        List.head?_append_of_ne_nil _ inside,
        if_neg (show ¬ (behindSpace s.spaced rest ++ t).isEmpty = true by simp [inside])]
      rfl
    split at run
    · rename_i other
      rw [if_neg (by simpa using inside)] at run
      cases run
      refine ⟨rfl, Nat.le_refl _, fun h => ⟨h, fun given => ?_⟩⟩
      rw [further, if_pos other]
    · rename_i named
      obtain ⟨⟨anchor, after⟩, found, same⟩ := Option.map_eq_some_iff.mp run
      cases same
      obtain ⟨shorter, found'⟩ := namedBoundary?_append found t
      refine ⟨rfl, ?_, fun _ => ⟨Or.inr (Or.inl unfinished), fun given => ?_⟩⟩
      · have less := length_behindSpace_le s.spaced rest
        rw [here, List.length_cons]
        exact Nat.le_succ_of_le (Nat.le_trans shorter less)
      · rw [further, if_neg named, found']
        rfl
  · rw [run_boundary_of_ne brace] at run
    cases run
    refine ⟨rfl, Nat.le_refl _, fun h => ⟨h, fun given => run_boundary_of_ne ?_⟩⟩
    rw [Reading.before, List.head?_append]
    cases head : s.rest.head? with
    | some c => rwa [head] at brace
    | none =>
      intro bar
      have same := behind _ bar
      cases same

theorem carries_escape (behind : ∀ c ∈ t.head?, c = '|') :
    Carries atEnd t 1 Reading.Unfinished escape escape := by
  unfold escape
  refine carries_bump.opens fun _ => carries_char fun c => Carries.failIf fun _ => ?_
  dsimp only
  iterate 3
    split
    · exact ((carries_hexEscape _).of_start fun _ here =>
        unfinished_of_head? here.2).of_used (Nat.zero_le _)
        |>.andThen fun p => Carries.pure _
  split
  · exact ((carries_property _).of_start fun _ here =>
      unfinished_of_head? here.2).of_used (Nat.zero_le _)
  · refine carries_bump_of_head.andThen fun _ => ?_
    split
    · exact Carries.pure _
    · split
      · exact Carries.pure _
      · split
        all_goals first
          | exact Carries.pure _
          | exact carries_boundary behind
          | exact Carries.failure

end Steps

end ClusterSurvey.Pattern.Read
