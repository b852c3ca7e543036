import ClusterSurvey.Pattern.Meaning
import ClusterSurvey.Proofs.Pattern.Groups
import Mathlib.Data.List.Forall2

/-!
Patterns that are joined by bars. A pattern that is read to its end in front of a bar, and leaves no
white space without meaning, is read in the same way in front of more patterns.
-/
namespace ClusterSurvey.Pattern

def Expression.ofBranches : List Expression → Expression
  | [e] => e
  | es => .alt es

/-- What is read of a text as a pattern, and where reading it stops. -/
def Expression.reading? (cs : List Char) : Option (Expression × Reading) :=
  (Read.alternatives [] [] (3 * cs.length + 3)).run ⟨cs, false, []⟩

namespace Read

theorem finished_eq (branches parts : List Expression) :
    finished branches parts = .ofBranches (branches.reverse ++ [concatenation parts]) := by
  unfold finished
  cases branches with
  | nil => rfl
  | cons e es =>
    have some : es.reverse ++ [e] ≠ [] := by simp
    obtain ⟨f, fs, more⟩ := List.exists_cons_of_ne_nil some
    have several : Expression.ofBranches ((e :: es).reverse ++ [concatenation parts]) =
        .alt ((e :: es).reverse ++ [concatenation parts]) := by
      rw [List.reverse_cons, more, List.cons_append]
      cases fs <;> rfl
    rw [several]
    simp

theorem run_bar (branches parts : List Expression) (fuel : Nat) (q : List Char)
    (given : List (List Char)) :
    (alternatives branches parts (fuel + 1)).run ⟨'|' :: q, false, given⟩ =
      (alternatives (concatenation parts :: branches) [] fuel).run ⟨q, false, given⟩ := by
  have space : skipSpace.run ⟨'|' :: q, false, given⟩ = some ((), ⟨'|' :: q, false, given⟩) := rfl
  rw [run_alternatives_succ branches parts fuel space]
  rfl

section Joined

variable {p t : List Char} {e : Expression} {s : Reading} {given : List (List Char)}

theorem run_of_reading? (alone : Expression.reading? p = some (e, s))
    (behind : ∀ c ∈ t.head?, c = '|') (apart : t = [] ∨ s.rest ≠ []) (cs : List Expression)
    {m : Nat} (enough : 3 * (p.length + t.length) + 1 ≤ m) :
    ∃ es, es ≠ [] ∧ e = .ofBranches es ∧
      Reads t s.names ⟨p, false, []⟩ (alternatives cs [] m) fun given read =>
      read = some (.ofBranches (cs.reverse ++ es), s.before t given) := by
  have continues := (continues_alternatives behind (3 * p.length + 3)).1 p.length m [] cs [] enough
  obtain ⟨more, parts, named, result, passed, reads⟩ := continues.stops (Nat.le_refl _) alone
  have names : s.names = named := passed.names.trans (List.append_nil named)
  refine ⟨more.reverse ++ [concatenation parts], by simp, ?_, ?_⟩
  · rw [result, finished_eq, List.append_nil]
  · rw [names]
    have same : finished (more ++ cs) parts =
        .ofBranches (cs.reverse ++ (more.reverse ++ [concatenation parts])) := by
      rw [finished_eq, List.reverse_append, List.append_assoc]
    rw [← same]
    exact reads (apart.imp_right Or.inl)

theorem run_before_bar {names : List (List Char)}
    (alone : Expression.reading? p = some (e, ⟨[], false, names⟩)) (q : List Char)
    (cs : List Expression) {m : Nat} (enough : 3 * (p.length + (q.length + 1)) + 1 ≤ m) :
    ∃ es, es ≠ [] ∧ e = .ofBranches es ∧
      Reads ('|' :: q) names ⟨p, false, []⟩ (alternatives cs [] m) fun given read =>
      ∃ fuel, 3 * q.length + 1 ≤ fuel ∧
        read = (alternatives (es.reverse ++ cs) [] fuel).run ⟨q, false, given⟩ := by
  have behind : ∀ c ∈ ('|' :: q).head?, c = '|' := fun c next => (Option.some.inj next).symm
  have continues := (continues_alternatives behind (3 * p.length + 3)).1 p.length m [] cs [] enough
  obtain ⟨more, parts, named, s₀, stopped, passed, reads⟩ := continues _ _ _ (Nat.le_refl _) alone
  -- No white space was passed, since it counts at the end of the pattern.
  have here : s₀ = ⟨[], false, names⟩ := by
    have space := stopped.space
    rw [run_skipSpace] at space
    by_cases spaced : s₀.spaced = true
    · rw [if_pos spaced] at space
      have same := congrArg Reading.spaced (Prod.mk.inj (Option.some.inj space)).2
      exact absurd (spaced.symm.trans same) (by simp)
    · rw [if_neg spaced] at space
      exact (Prod.mk.inj (Option.some.inj space)).2
  have nameless : names = named := by
    have names := passed.names
    rw [here] at names
    exact names.trans (List.append_nil named)
  refine ⟨more.reverse ++ [concatenation parts], by simp, ?_, fun given => ?_⟩
  · rw [stopped.result, finished_eq, List.append_nil]
  · obtain ⟨free, taken⟩ := reads (Or.inr (Or.inr ⟨rfl, by rw [here]⟩)) given
    rw [← nameless] at free taken
    refine ⟨fun new => ?_, taken⟩
    obtain ⟨fuel, enough, read⟩ := free new
    obtain ⟨fuel, rfl⟩ := Nat.exists_eq_add_one_of_ne_zero (show fuel ≠ 0 by omega)
    rw [here] at read
    rw [here, List.length_cons] at enough
    refine ⟨fuel,
      by omega, read.trans ((run_bar (more ++ cs) parts fuel q (names ++ given)).trans ?_)⟩
    rw [List.reverse_append, List.reverse_reverse]
    rfl

theorem reading?_of_run {cs : List Expression} {m : Nat} {given : List (List Char)}
    {e : Expression} {s : Reading}
    (run : (alternatives cs [] m).run ⟨p, false, given⟩ = some (e, s)) :
    ∃ e s, Expression.reading? p = some (e, s) := by
  have continues :=
    (continues_alternatives (t := []) (by simp) m).1 p.length (3 * p.length + 3) cs [] [] (by simp)
  obtain ⟨more, parts, named, result, passed, reads⟩ := continues.stops (Nat.le_refl _) run
  have same := (reads (Or.inl rfl) []).1 (by simp)
  rw [Reading.before, List.append_nil] at same
  exact ⟨_, _, same⟩

end Joined

end Read

/-- The names that a pattern gives to groups. -/
def groupNames (p : List Char) : List (List Char) :=
  ((Expression.reading? p).map fun read => read.2.names).getD []

/-- Whether a pattern is read to its end by itself, where white space counts. -/
def ReadToEnd (p : List Char) : Prop :=
  ∃ e names, Expression.reading? p = some (e, ⟨[], false, names⟩)

/-- The alternatives `es` are what is read of a pattern. -/
def Spells (p : List Char) (es : List Expression) : Prop :=
  es ≠ [] ∧ ∃ s, Expression.reading? p = some (.ofBranches es, s)

/-- Patterns in front of others, each with a bar behind it. -/
def barred (front : List (List Char)) : List Char := front.flatMap fun p => p ++ ['|']

theorem intercalate_append (front : List (List Char)) (p : List Char) (back : List (List Char)) :
    ['|'].intercalate (front ++ p :: back) = barred front ++ ['|'].intercalate (p :: back) := by
  induction front with
  | nil => rfl
  | cons q front ih =>
    have some : front ++ p :: back ≠ [] := by simp
    obtain ⟨r, rs, more⟩ := List.exists_cons_of_ne_nil some
    rw [List.cons_append, more, List.intercalate_cons_cons, ← more, ih]
    simp [barred]

namespace Read

/-- Patterns that are read to their ends, in front of others: if they give different names, what is
behind them is read behind their alternatives. -/
theorem run_barred {front : List (List Char)} (toEnd : ∀ p ∈ front, ReadToEnd p) (q : List Char)
    (cs : List Expression) (given : List (List Char)) {m : Nat}
    (enough : 3 * (barred front ++ q).length + 1 ≤ m) :
    (((front.map groupNames).Pairwise List.Disjoint ∧ ∀ p ∈ front, (groupNames p).Disjoint given) →
      ∃ ess fuel, List.Forall₂ Spells front ess ∧ 3 * q.length + 1 ≤ fuel ∧
        (alternatives cs [] m).run ⟨barred front ++ q, false, given⟩ =
          (alternatives (ess.flatten.reverse ++ cs) [] fuel).run
            ⟨q, false, front.reverse.flatMap groupNames ++ given⟩) ∧
    (¬ ((front.map groupNames).Pairwise List.Disjoint ∧
      ∀ p ∈ front, (groupNames p).Disjoint given) →
      (alternatives cs [] m).run ⟨barred front ++ q, false, given⟩ = none) := by
  induction front generalizing cs given m with
  | nil =>
      exact ⟨fun _ => ⟨[], m, .nil, enough, rfl⟩, fun apart =>
        absurd ⟨List.Pairwise.nil, by simp⟩ apart⟩
  | cons p front ih =>
    obtain ⟨e, names, alone⟩ := toEnd p List.mem_cons_self
    have named : groupNames p = names := by rw [groupNames, alone]; rfl
    have text : barred (p :: front) ++ q = p ++ '|' :: (barred front ++ q) := by simp [barred]
    rw [text] at enough ⊢
    rw [List.length_append, List.length_cons] at enough
    obtain ⟨es, some, result, reads⟩ := run_before_bar alone (barred front ++ q) cs enough
    obtain ⟨free, taken⟩ := reads given
    have others : ((List.map groupNames (p :: front)).Pairwise List.Disjoint ∧
        ∀ r ∈ p :: front, (groupNames r).Disjoint given) ↔ names.Disjoint given ∧
          ((front.map groupNames).Pairwise List.Disjoint ∧
              ∀ r ∈ front, (groupNames r).Disjoint (names ++ given)) := by
      simp only [List.map_cons, List.pairwise_cons, List.forall_mem_map,
        List.forall_mem_cons, named, List.disjoint_append_right]
      constructor
      · rintro ⟨⟨apart, rest⟩, here, there⟩
        exact ⟨here, rest, fun r member => ⟨List.disjoint_symm (apart r member), there r member⟩⟩
      · rintro ⟨here, rest, both⟩
        exact ⟨⟨fun r member => List.disjoint_symm (both r member).1, rest⟩, here, fun r member =>
          (both r member).2⟩
    rw [others]
    by_cases new : names.Disjoint given
    · obtain ⟨fuel, enough, read⟩ := free new
      obtain ⟨apart, shared⟩ :=
        ih (fun r member => toEnd r (List.mem_cons_of_mem _ member)) (es.reverse ++ cs)
        (names ++ given) enough
      have same : (alternatives cs [] m).run ⟨p ++ '|' :: (barred front ++ q), false, given⟩ =
          (alternatives (es.reverse ++ cs) [] fuel).run ⟨barred front ++ q, false,
              names ++ given⟩ := read
      rw [same]
      refine ⟨fun all => ?_, fun some => shared fun rest => some ⟨new, rest⟩⟩
      obtain ⟨ess, fuel, spelled, enough, read⟩ := apart all.2
      refine ⟨es :: ess, fuel, .cons ⟨some, _, result ▸ alone⟩ spelled, enough, ?_⟩
      rw [read]
      simp [named, List.append_assoc]
    · exact ⟨fun all => absurd all.1 new, fun _ => taken new⟩

end Read

section Joined

variable {front : List (List Char)} {last : List Char}

def NamesApart (ps : List (List Char)) : Prop := (ps.map groupNames).Pairwise List.Disjoint

instance (ps : List (List Char)) : Decidable (NamesApart ps) :=
  inferInstanceAs (Decidable ((ps.map groupNames).Pairwise fun a b => ∀ n ∈ a, n ∉ b))

theorem namesApart_append_singleton : NamesApart (front ++ [last]) ↔
    NamesApart front ∧ (groupNames last).Disjoint (front.reverse.flatMap groupNames) := by
  have others : (groupNames last).Disjoint (front.reverse.flatMap groupNames) ↔
      ∀ p ∈ front, (groupNames p).Disjoint (groupNames last) := by
    constructor
    · exact fun apart p member a there here =>
        apart here (List.mem_flatMap.mpr ⟨p, List.mem_reverse.mpr member, there⟩)
    · intro apart a here there
      obtain ⟨p, member, there⟩ := List.mem_flatMap.mp there
      exact apart p (List.mem_reverse.mp member) there here
  rw [others, NamesApart, NamesApart, List.map_append, List.pairwise_append]
  simp

theorem intercalate_append_singleton (front : List (List Char)) (last : List Char) :
    ['|'].intercalate (front ++ [last]) = barred front ++ last := by
  rw [intercalate_append]
  simp

theorem enough_fuel (cs : List Char) : 3 * cs.length + 1 ≤ 3 * cs.length + 3 := by omega

theorem reading?_joined (toEnd : ∀ p ∈ front, ReadToEnd p) {e : Expression} {s : Reading}
    (alone : Expression.reading? last = some (e, s)) (apart : NamesApart (front ++ [last])) :
    ∃ ess es names, List.Forall₂ Spells front ess ∧ es ≠ [] ∧ e = .ofBranches es ∧
      Expression.reading? (['|'].intercalate (front ++ [last])) =
        some (.ofBranches (ess.flatten ++ es), ⟨s.rest, s.spaced, names⟩) := by
  obtain ⟨apart, new⟩ := namesApart_append_singleton.mp apart
  obtain ⟨ess, fuel, spelled, enough, read⟩ :=
    (Read.run_barred toEnd last [] [] (enough_fuel _)).1 ⟨apart, by simp⟩
  obtain ⟨es, some, result, reads⟩ := Read.run_of_reading? alone (t := []) (by simp) (Or.inl rfl)
    (ess.flatten.reverse ++ []) (m := fuel) (by simpa using enough)
  have names : groupNames last = s.names := by rw [groupNames, alone]; rfl
  have behind :=
    (reads (front.reverse.flatMap groupNames ++ [])).1 (by rwa [List.append_nil, ← names])
  rw [Reading.before_nil, Reading.before_nil, List.append_nil, List.reverse_reverse,
    List.append_nil] at behind
  rw [List.append_nil, List.append_nil] at read
  rw [intercalate_append_singleton]
  exact ⟨ess, es, _, spelled, some, result, read.trans behind⟩

theorem reading?_joined_of_shared (toEnd : ∀ p ∈ front, ReadToEnd p) {e : Expression} {s : Reading}
    (alone : Expression.reading? last = some (e, s)) (shared : ¬ NamesApart (front ++ [last])) :
    Expression.reading? (['|'].intercalate (front ++ [last])) = none := by
  obtain ⟨free, taken⟩ := Read.run_barred toEnd last [] [] (enough_fuel _)
  rw [intercalate_append_singleton, Expression.reading?]
  by_cases apart : NamesApart front
  · obtain ⟨ess, fuel, _, enough, read⟩ := free ⟨apart, by simp⟩
    obtain ⟨es, _, _, reads⟩ := Read.run_of_reading? alone (t := []) (by simp) (Or.inl rfl)
      (ess.flatten.reverse ++ []) (m := fuel) (by simpa using enough)
    have names : groupNames last = s.names := by rw [groupNames, alone]; rfl
    have behind := (reads (front.reverse.flatMap groupNames ++ [])).2 fun new =>
      shared (namesApart_append_singleton.mpr ⟨apart, by rwa [List.append_nil, ← names] at new⟩)
    rw [Reading.before_nil] at behind
    exact read.trans behind
  · exact taken fun all => apart all.1

theorem intercalate_cons (p : List Char) (back : List (List Char)) :
    ∃ t : List Char, (∀ c ∈ t.head?, c = '|') ∧ ['|'].intercalate (p :: back) = p ++ t := by
  cases back with
  | nil => exact ⟨[], by simp, by simp⟩
  | cons q back =>
    refine ⟨'|' :: ['|'].intercalate (q :: back), fun c next => (Option.some.inj next).symm, ?_⟩
    rw [List.intercalate_cons_cons]
    simp

/-- Joined patterns are not read further than to a parenthesis that closes nothing in one of
them. -/
theorem rest_of_reading?_joined (toEnd : ∀ p ∈ front, ReadToEnd p) {p : List Char}
    {e : Expression} {s : Reading} (alone : Expression.reading? p = some (e, s))
    (stray : s.rest ≠ []) (back : List (List Char)) {e' : Expression} {s' : Reading}
    (read : Expression.reading? (['|'].intercalate (front ++ p :: back)) = some (e', s')) :
    s'.rest ≠ [] := by
  obtain ⟨t, behind, text⟩ := intercalate_cons p back
  rw [intercalate_append, text, Expression.reading?] at read
  obtain ⟨free, taken⟩ := Read.run_barred toEnd (p ++ t) [] [] (enough_fuel _)
  by_cases apart : NamesApart front
  · obtain ⟨ess, fuel, _, enough, joined⟩ := free ⟨apart, by simp⟩
    obtain ⟨es, _, _, reads⟩ :=
      Read.run_of_reading? alone behind (Or.inr stray) (ess.flatten.reverse ++ [])
      (m := fuel) (by rwa [← List.length_append])
    obtain ⟨further, never⟩ := reads (front.reverse.flatMap groupNames ++ [])
    rw [joined] at read
    by_cases new : s.names.Disjoint (front.reverse.flatMap groupNames ++ [])
    · have same := (further new).symm.trans read
      cases same
      exact fun none => stray (List.append_eq_nil_iff.mp none).1
    · have same := (never new).symm.trans read
      cases same
  · rw [taken fun all => apart all.1] at read
    cases read

theorem reading?_behind (toEnd : ∀ p ∈ front, ReadToEnd p) {p : List Char} {back : List (List Char)}
    {e : Expression} {s : Reading}
    (read : Expression.reading? (['|'].intercalate (front ++ p :: back)) = some (e, s)) :
    ∃ e s, Expression.reading? (['|'].intercalate (p :: back)) = some (e, s) := by
  rw [intercalate_append, Expression.reading?] at read
  obtain ⟨free, taken⟩ :=
    Read.run_barred toEnd (['|'].intercalate (p :: back)) [] [] (enough_fuel _)
  by_cases apart : NamesApart front
  · obtain ⟨ess, fuel, _, _, joined⟩ := free ⟨apart, by simp⟩
    rw [joined] at read
    exact Read.reading?_of_run read
  · rw [taken fun all => apart all.1] at read
    cases read

end Joined

end ClusterSurvey.Pattern
