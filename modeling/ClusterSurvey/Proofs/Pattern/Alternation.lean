import ClusterSurvey.Proofs.Pattern.Alternatives
import Mathlib.Data.List.Induction

/-!
Joined patterns and the patterns by themselves. If each pattern in front of the last one closes what
it opens and leaves the flags as they were, or cannot begin a pattern, joining the patterns gives
one that matches where one of them does, and no pattern if one of them is none.
-/
namespace ClusterSurvey.Pattern

deriving instance DecidableEq for Flags

/-- Whether a text can stand in front of others as a pattern: it closes what it opens, and white
space and the flags are behind it as they were in front of it. -/
def Whole (p : String) : Prop :=
  ∃ read ∈ Expression.reading? p.toList, (read.2.rest = [] → read.2.spaced = false) ∧
    ∀ m ∈ read.1.pattern? .initial, m.2 = .initial

instance (p : String) : Decidable (Whole p) :=
  inferInstanceAs (Decidable
    (∃ read ∈ Expression.reading? p.toList, (read.2.rest = [] → read.2.spaced = false) ∧
    ∀ m ∈ read.1.pattern? .initial, m.2 = .initial))

example : Whole "a|[b-d]+" ∧ ¬ Whole "(?i)a" ∧ ¬ Whole "(a" := by decide +kernel

/-- Whether no text that begins with this one can be read as a pattern. -/
def Hopeless (p : String) : Prop := ∀ t, Expression.reading? (p.toList ++ t) = none

/-- Whether a text, as a pattern in front of others, does not reach into them. -/
def Closed (p : String) : Prop := Whole p ∨ Hopeless p

/-- Whether patterns are so small that they can be joined. -/
def Fit (ps : List String) : Prop :=
  (∀ p ∈ ps, ∀ e ∈ Expression.ofChars? p.toList, e.depth < maxDepth) ∧
    (ps.map fun p => ((ofString? p).map weight).getD 0 + 1).sum + 1 ≤ maxWeight

instance (ps : List String) : Decidable (Fit ps) :=
  inferInstanceAs (Decidable ((∀ p ∈ ps, ∀ e ∈ Expression.ofChars? p.toList, e.depth < maxDepth) ∧
    (ps.map fun p => ((ofString? p).map weight).getD 0 + 1).sum + 1 ≤ maxWeight))

/-- Whether no two patterns give the same name to groups. -/
def NamedApart (ps : List String) : Prop := NamesApart (ps.map String.toList)

instance (ps : List String) : Decidable (NamedApart ps) :=
  inferInstanceAs (Decidable (NamesApart _))

theorem ofChars?_eq_some {cs : List Char} {e : Expression} : Expression.ofChars? cs = some e ↔
    ∃ s, Expression.reading? cs = some (e, s) ∧ s.rest = [] ∧ e.depth ≤ maxDepth := by
  have step : Expression.ofChars? cs = (Expression.reading? cs).bind fun read =>
      if read.2.rest ≠ [] ∨ maxDepth < read.1.depth then none else some read.1 := rfl
  rw [step, Option.bind_eq_some_iff]
  constructor
  · rintro ⟨⟨e', s⟩, read, known⟩
    split at known
    · cases known
    · rename_i fits
      cases known
      obtain ⟨ended, small⟩ := not_or.mp fits
      exact ⟨s, read, not_not.mp ended, Nat.le_of_not_lt small⟩
  · rintro ⟨s, read, ended, small⟩
    exact ⟨(e, s), read, if_neg (by simp [ended, small])⟩

theorem ofString?_eq_some {p : String} {m : Pattern} : ofString? p = some m ↔
    ∃ e s f, Expression.reading? p.toList = some (e, s) ∧ s.rest = [] ∧ e.depth ≤ maxDepth ∧
      e.pattern? .initial = some (m, f) ∧ m.weight ≤ maxWeight := by
  have step : ofString? p = (Expression.ofChars? p.toList).bind fun e =>
      (e.pattern? .initial).bind fun r =>
      if maxWeight < r.1.weight then none else some r.1 := rfl
  rw [step, Option.bind_eq_some_iff]
  constructor
  · rintro ⟨e, known, meant⟩
    obtain ⟨s, read, ended, small⟩ := ofChars?_eq_some.mp known
    obtain ⟨⟨m', f⟩, meaning, fits⟩ := Option.bind_eq_some_iff.mp meant
    split at fits
    · cases fits
    · rename_i light
      cases fits
      exact ⟨e, s, f, read, ended, small, meaning, Nat.le_of_not_lt light⟩
  · rintro ⟨e, s, f, read, ended, small, meaning, light⟩
    exact ⟨e, ofChars?_eq_some.mpr ⟨s, read, ended, small⟩,
      Option.bind_eq_some_iff.mpr ⟨(m, f), meaning, if_neg (Nat.not_lt.mpr light)⟩⟩

/-- The alternatives `ps` are what a pattern means, and it leaves the flags as they were. -/
def Means (p : List Char) (ps : List Pattern) : Prop :=
  ps ≠ [] ∧ ∃ e s, Expression.reading? p = some (e, s) ∧
    e.pattern? .initial = some (ofBranches ps, .initial)

theorem ne_nil_of_patterns? {f f' : Flags} {es : List Expression} {ps : List Pattern}
    (known : patterns? f es = some (ps, f')) (some : es ≠ []) : ps ≠ [] := by
  intro nothing
  have count := length_of_patterns? known
  rw [nothing] at count
  exact some (List.length_eq_zero_iff.mp count.symm)

theorem patterns?_flatten {front : List (List Char)} {ess : List (List Expression)}
    (spelled : List.Forall₂ Spells front ess)
    (kept : ∀ p ∈ front, ∀ e s, Expression.reading? p = some (e, s) →
      ∀ m f, e.pattern? .initial = some (m, f) → f = .initial) :
    (∃ qss, List.Forall₂ Means front qss ∧ ∀ es, patterns? .initial (ess.flatten ++ es) =
        (patterns? .initial es).map fun r => (qss.flatten ++ r.1, r.2)) ∨
      ((∃ p ∈ front, ∀ e s, Expression.reading? p = some (e, s) → e.pattern? .initial = none) ∧
        ∀ es, patterns? .initial (ess.flatten ++ es) = none) := by
  induction spelled with
  | nil => exact Or.inl ⟨[], .nil, fun es => by
      rw [List.flatten_nil, List.nil_append]
      cases patterns? .initial es <;> rfl⟩
  | @cons p es front ess here spelled ih =>
    obtain ⟨some, s, read⟩ := here
    have append : ∀ more, (es :: ess).flatten ++ more = es ++ (ess.flatten ++ more) :=
      fun more => by simp
    cases meant : patterns? .initial es with
    | none =>
      refine Or.inr ⟨⟨p, List.mem_cons_self, fun e s' read' => ?_⟩, fun more => ?_⟩
      · cases read.symm.trans read'
        rw [pattern?_ofBranches, meant]
        rfl
      · rw [append, patterns?_append, meant]
        rfl
    | some r =>
      have meaning : (Expression.ofBranches es).pattern? .initial =
          .some (ofBranches r.1, r.2) := by
        rw [pattern?_ofBranches, meant]
        rfl
      have back : r.2 = .initial := kept p List.mem_cons_self _ _ read _ _ meaning
      have first : ∀ more, patterns? .initial ((es :: ess).flatten ++ more) =
          (patterns? .initial (ess.flatten ++ more)).map fun r' => (r.1 ++ r'.1, r'.2) :=
            fun more => by
        rw [append, patterns?_append, meant, Option.bind_some, back]
      rw [back] at meaning
      have later := ih fun q member => kept q (List.mem_cons_of_mem _ member)
      rcases later with ⟨qss, means, rest⟩ | ⟨⟨q, member, never⟩, none⟩
      · refine Or.inl ⟨r.1 :: qss,
          .cons ⟨ne_nil_of_patterns? meant some, _, s, read, meaning⟩ means, fun more => ?_⟩
        · rw [first, rest, Option.map_map]
          cases patterns? .initial more with
          | none => rfl
          | some r' => simp
      · exact Or.inr ⟨⟨q, List.mem_cons_of_mem _ member, never⟩, fun more =>
          by rw [first, none]; rfl⟩

theorem readToEnd_of_joined {front back : List (List Char)} {e : Expression} {s : Reading}
    (whole : ∀ p ∈ front, (∃ e s, Expression.reading? p = some (e, s) ∧
      (s.rest = [] → s.spaced = false)) ∨
      ∀ t, Expression.reading? (p ++ t) = none)
    (read : Expression.reading? (['|'].intercalate (front ++ back)) = some (e, s))
    (ended : s.rest = []) :
    ∀ p ∈ front, ReadToEnd p := by
  -- From the left: the first pattern that is not read to its end would stop the reading of all of
  -- them.
  induction front using List.reverseRecOn generalizing back with
  | nil => simp
  | append_singleton front p ih =>
    rw [List.append_assoc, List.singleton_append] at read
    have others := ih (fun q member => whole q (List.mem_append_left _ member)) read
    refine fun q member => (List.mem_append.mp member).elim (others q) fun same => ?_
    rw [List.mem_singleton.mp same]
    rcases whole p (by simp) with ⟨e', ⟨rest, spaced, names⟩, alone, counts⟩ | never
    · cases rest with
      | nil =>
        cases counts rfl
        exact ⟨e', names, alone⟩
      | cons c rest =>
          exact absurd ended (rest_of_reading?_joined others alone
            (List.cons_ne_nil c rest) back read)
    · obtain ⟨t, _, text⟩ := intercalate_cons p back
      obtain ⟨_, _, begun⟩ := reading?_behind others read
      rw [text, never t] at begun
      cases begun

theorem exists_of_mem_left {α β : Type} {R : α → β → Prop} {xs : List α} {ys : List β}
    (each : List.Forall₂ R xs ys) {x : α} (member : x ∈ xs) : ∃ y ∈ ys, R x y := by
  induction each with
  | nil => cases member
  | cons here each ih =>
    rcases List.mem_cons.mp member with rfl | member
    · exact ⟨_, List.mem_cons_self, here⟩
    · obtain ⟨y, member, there⟩ := ih member
      exact ⟨y, List.mem_cons_of_mem _ member, there⟩

theorem exists_of_mem_right {α β : Type} {R : α → β → Prop} {xs : List α} {ys : List β}
    (each : List.Forall₂ R xs ys) {y : β} (member : y ∈ ys) : ∃ x ∈ xs, R x y :=
  exists_of_mem_left each.flip member

section Joined

variable {front : List String} {last : String}

theorem toList_joined (front : List String) (last : String) :
    ("|".intercalate (front ++ [last])).toList = ['|'].intercalate
    (front.map String.toList ++ [last.toList]) := by
  rw [String.toList_intercalate, List.map_append]
  rfl

theorem reading?_of_closed (closed : ∀ p ∈ front, Closed p) : ∀ p ∈ front.map String.toList,
    (∃ e s, Expression.reading? p = some (e, s) ∧ (s.rest = [] → s.spaced = false)) ∨
      ∀ t, Expression.reading? (p ++ t) = none := by
  intro p member
  obtain ⟨text, within, rfl⟩ := List.mem_map.mp member
  refine (closed text within).imp_left fun whole => ?_
  obtain ⟨⟨e, s⟩, read, counts, _⟩ := whole
  exact ⟨e, s, read, counts⟩

theorem Closed.whole {p : String} (closed : Closed p) {r : Expression × Reading}
    (read : Expression.reading? p.toList = some r) : (r.2.rest = [] → r.2.spaced = false) ∧
      ∀ m ∈ r.1.pattern? .initial, m.2 = .initial := by
  rcases closed with ⟨r', read', whole⟩ | never
  · cases read.symm.trans read'
    exact whole
  · have none := never []
    rw [List.append_nil, read] at none
    cases none

theorem flags_of_closed (closed : ∀ p ∈ front, Closed p) : ∀ p ∈ front.map String.toList, ∀ e s,
    Expression.reading? p = some (e, s) → ∀ m f, e.pattern? .initial = some (m, f) →
      f = .initial := by
  intro p member e s read m f meant
  obtain ⟨text, within, rfl⟩ := List.mem_map.mp member
  exact ((closed text within).whole read).2 (m, f) meant

theorem ofString?_of_pattern? {p : String} {e : Expression} {s : Reading} {m : Pattern} {f : Flags}
    (read : Expression.reading? p.toList = some (e, s)) (meant : e.pattern? .initial = some (m, f))
    (valid : (ofString? p).isSome) : ofString? p = some m := by
  obtain ⟨m', known⟩ := Option.isSome_iff_exists.mp valid
  obtain ⟨e', s', f', read', _, _, meant', _⟩ := ofString?_eq_some.mp known
  cases read.symm.trans read'
  cases meant.symm.trans meant'
  exact known

theorem ofString?_of_means {qss : List (List Pattern)}
    (means : List.Forall₂ Means (front.map String.toList) qss)
    (valid : ∀ p ∈ front, (ofString? p).isSome) :
    List.Forall₂ (fun p ps => ofString? p = some (ofBranches ps)) front qss := by
  have both := (List.forall₂_and_left (p := fun p => (ofString? p).isSome = true) _ _).mpr
    ⟨valid, List.forall₂_map_left_iff.mp means⟩
  refine both.imp fun p ps here => ?_
  obtain ⟨valid, _, e, s, read, meant⟩ := here
  exact ofString?_of_pattern? read meant valid

theorem isSome_of_sublist {p : String} {es fs : List Expression} {ps qs : List Pattern}
    {s : Reading} {f : Flags} (read : Expression.reading? p.toList = some (.ofBranches es, s))
    (ended : s.rest = []) (meant : (Expression.ofBranches es).pattern? .initial =
      some (ofBranches ps, f)) (some : es ≠ []) (some' : ps ≠ [])
    (part : es.Sublist fs) (shallow : (Expression.ofBranches fs).depth ≤ maxDepth)
    (part' : ps.Sublist qs) (light : (ofBranches qs).weight ≤ maxWeight) : (ofString? p).isSome :=
  Option.isSome_iff_exists.mpr ⟨_, ofString?_eq_some.mpr ⟨_, s, f, read, ended,
    Nat.le_trans (depth_ofBranches_mono some part) shallow, meant,
    Nat.le_trans (weight_ofBranches_mono some' part') light⟩⟩

theorem any_flatten {qss : List (List Pattern)}
    (each : List.Forall₂ (fun p ps => ofString? p = some (ofBranches ps)) front qss)
    (text : List Char) :
    (qss.flatten.any fun q => q.occursIn text) = front.any fun p =>
    (ofString? p).any fun q => q.occursIn text := by
  induction each with
  | nil => rfl
  | cons here each ih =>
    rw [List.flatten_cons, List.any_append, ih, List.any_cons, here, Option.any_some,
      occursIn_ofBranches]

theorem roomOf_flatten_le {qss : List (List Pattern)}
    (each : List.Forall₂ (fun p ps => ofString? p = some (ofBranches ps)) front qss) :
    roomOf qss.flatten ≤ (front.map fun p => ((ofString? p).map weight).getD 0 + 1).sum := by
  induction each with
  | nil => exact Nat.le_refl _
  | @cons p ps front qss here each ih =>
    rw [List.flatten_cons, roomOf_append, List.map_cons, List.sum_cons, here]
    exact Nat.add_le_add (roomOf_le_weight ps) ih

/-- What is known of patterns that are joined to one. -/
structure Joined (front : List String) (last : String) (m : Pattern) : Prop where
  valid : ∀ p ∈ front ++ [last], (ofString? p).isSome
  apart : NamedApart (front ++ [last])
  matching : ∀ text, m.occursIn text = (front ++ [last]).any fun p =>
    (ofString? p).any fun q => q.occursIn text

theorem namedApart_iff :
    NamedApart (front ++ [last]) ↔ NamesApart (front.map String.toList ++ [last.toList]) := by
  rw [NamedApart, List.map_append]
  rfl

/-- Joined patterns are a pattern only if each of them is one and no two give the same name to
groups; it matches where one of them does. -/
theorem joined_of_ofString? (closed : ∀ p ∈ front, Closed p) {m : Pattern}
    (known : ofString? ("|".intercalate (front ++ [last])) = some m) : Joined front last m := by
  obtain ⟨e, s, f, read, ended, shallow, meant, light⟩ := ofString?_eq_some.mp known
  rw [toList_joined] at read
  have toEnd := readToEnd_of_joined (reading?_of_closed closed) read ended
  obtain ⟨e', s', alone⟩ := reading?_behind toEnd read
  rw [List.intercalate_singleton] at alone
  have apart : NamesApart (front.map String.toList ++ [last.toList]) := by
    refine not_not.mp fun shared => ?_
    rw [reading?_joined_of_shared toEnd alone shared] at read
    cases read
  obtain ⟨ess, es, names, spelled, someLast, rfl, joined⟩ := reading?_joined toEnd alone apart
  cases joined.symm.trans read
  rw [pattern?_ofBranches] at meant
  obtain ⟨⟨qs, f⟩, meanings, same⟩ := Option.map_eq_some_iff.mp meant
  cases same
  rcases patterns?_flatten spelled (flags_of_closed closed) with ⟨qss, means, rest⟩ | ⟨_, never⟩
  · rw [rest] at meanings
    obtain ⟨⟨lastOnes, f⟩, meantLast, same⟩ := Option.map_eq_some_iff.mp meanings
    cases same
    have validFront : ∀ p ∈ front, (ofString? p).isSome := by
      intro p member
      have within := List.mem_map_of_mem (f := String.toList) member
      obtain ⟨es', among, some, s, spells⟩ := exists_of_mem_left spelled within
      obtain ⟨ps, among', some', e, s', read', meantHere⟩ := exists_of_mem_left means within
      obtain ⟨e'', names', ended'⟩ := toEnd _ within
      cases spells.symm.trans read'
      cases ended'.symm.trans read'
      exact isSome_of_sublist spells rfl meantHere some some'
        ((List.sublist_flatten_of_mem among).trans (List.sublist_append_left _ _)) shallow
        ((List.sublist_flatten_of_mem among').trans (List.sublist_append_left _ _)) light
    have meaningLast : (Expression.ofBranches es).pattern? .initial =
        some (ofBranches lastOnes, f) := by
      rw [pattern?_ofBranches, meantLast]
      rfl
    have validLast : (ofString? last).isSome := isSome_of_sublist alone ended meaningLast someLast
      (ne_nil_of_patterns? meantLast someLast) (List.sublist_append_right _ _) shallow
        (List.sublist_append_right _ _)
      light
    have lastly := ofString?_of_pattern? alone meaningLast validLast
    refine ⟨fun p member => ?_, namedApart_iff.mpr apart, fun text => ?_⟩
    · exact (List.mem_append.mp member).elim (validFront p) fun same =>
        List.mem_singleton.mp same ▸ validLast
    · rw [occursIn_ofBranches, List.any_append, List.any_append,
        any_flatten (ofString?_of_means means validFront), List.any_cons, lastly, Option.any_some,
        occursIn_ofBranches, List.any_nil, Bool.or_false]
  · rw [never] at meanings
    cases meanings

theorem weight_joined_le {qss : List (List Pattern)} {ones : List Pattern}
    (each : List.Forall₂ (fun p ps => ofString? p = some (ofBranches ps)) front qss)
    (known : ofString? last = some (ofBranches ones)) (fit : Fit (front ++ [last])) :
    (ofBranches (qss.flatten ++ ones)).weight ≤ maxWeight :=
  calc (ofBranches (qss.flatten ++ ones)).weight
    _ ≤ roomOf (qss.flatten ++ ones) + 1 := weight_ofBranches_le _
    _ = roomOf qss.flatten + roomOf ones + 1 := by rw [roomOf_append]
    _ ≤ ((front ++ [last]).map fun p => ((ofString? p).map weight).getD 0 + 1).sum + 1 := by
      rw [List.map_append, List.sum_append, List.map_singleton, List.sum_singleton, known]
      exact Nat.add_le_add_right
        (Nat.add_le_add (roomOf_flatten_le each) (roomOf_le_weight ones)) 1
    _ ≤ maxWeight := fit.2

theorem depth_joined_le {ess : List (List Expression)} {es : List Expression}
    (each : ∀ es' ∈ ess, (Expression.ofBranches es').depth < maxDepth)
    (last : (Expression.ofBranches es).depth < maxDepth) :
    (Expression.ofBranches (ess.flatten ++ es)).depth ≤ maxDepth := by
  have inner : ∀ e ∈ ess.flatten ++ es, e.depth ≤ maxDepth - 1 := by
    intro e member
    refine Nat.le_sub_one_of_lt ?_
    rcases List.mem_append.mp member with inFront | inLast
    · obtain ⟨es', among, member⟩ := List.mem_flatten.mp inFront
      exact Nat.lt_of_le_of_lt (depth_le_depth_ofBranches member) (each es' among)
    · exact Nat.lt_of_le_of_lt (depth_le_depth_ofBranches inLast) last
  exact Nat.le_trans (depth_ofBranches_le _)
    (Nat.add_le_of_le_sub (by decide) (depths_le_iff.mpr inner))

theorem isSome_joined (closed : ∀ p ∈ front, Closed p)
    (valid : ∀ p ∈ front ++ [last], (ofString? p).isSome) (apart : NamedApart (front ++ [last]))
    (fit : Fit (front ++ [last])) :
    (ofString? ("|".intercalate (front ++ [last]))).isSome := by
  have known : ∀ p ∈ front ++ [last], ∃ e s f m, ofString? p = some m ∧
      Expression.reading? p.toList = some (e, s) ∧
      s.rest = [] ∧ e.depth < maxDepth ∧ e.pattern? .initial = some (m, f) := by
    intro p member
    obtain ⟨m, known⟩ := Option.isSome_iff_exists.mp (valid p member)
    obtain ⟨e, s, f, read, ended, small, meant, _⟩ := ofString?_eq_some.mp known
    exact ⟨e, s, f, m, known, read, ended,
      fit.1 p member e (ofChars?_eq_some.mpr ⟨s, read, ended, small⟩), meant⟩
  have toEnd : ∀ p ∈ front.map String.toList, ReadToEnd p := by
    intro p member
    obtain ⟨text, within, rfl⟩ := List.mem_map.mp member
    obtain ⟨e, ⟨rest, spaced, names⟩, _, _, _, read, ended, _⟩ :=
      known text (List.mem_append_left _ within)
    cases ended
    cases ((closed text within).whole read).1 rfl
    exact ⟨e, names, read⟩
  obtain ⟨e, s, f, m, knownLast, alone, ended, shallow, meant⟩ := known last (by simp)
  obtain ⟨ess, es, names, spelled, someLast, rfl, joined⟩ :=
    reading?_joined toEnd alone (namedApart_iff.mp apart)
  rw [pattern?_ofBranches] at meant
  obtain ⟨⟨lastOnes, f⟩, meantLast, same⟩ := Option.map_eq_some_iff.mp meant
  cases same
  rcases patterns?_flatten spelled (flags_of_closed closed) with ⟨qss, means, rest⟩ |
    ⟨⟨p, member, never⟩, _⟩
  · have each := ofString?_of_means means fun p member => valid p (List.mem_append_left _ member)
    have small : ∀ es' ∈ ess, (Expression.ofBranches es').depth < maxDepth := by
      intro es' among
      obtain ⟨p, onePattern, _, s, spells⟩ := exists_of_mem_right spelled among
      obtain ⟨text, within, rfl⟩ := List.mem_map.mp onePattern
      obtain ⟨e', s', f, m, _, read, _, small, _⟩ := known text (List.mem_append_left _ within)
      cases spells.symm.trans read
      exact small
    have meaning : (Expression.ofBranches (ess.flatten ++ es)).pattern? .initial =
        some (ofBranches (qss.flatten ++ lastOnes), f) := by
      rw [pattern?_ofBranches, rest, meantLast]
      rfl
    rw [← toList_joined] at joined
    exact Option.isSome_iff_exists.mpr ⟨_, ofString?_eq_some.mpr ⟨_, _, f, joined, ended,
      depth_joined_le small shallow, meaning, weight_joined_le each knownLast fit⟩⟩
  · obtain ⟨text, within, rfl⟩ := List.mem_map.mp member
    obtain ⟨e, s, f, m, _, read, _, _, meant⟩ := known text (List.mem_append_left _ within)
    rw [never e s read] at meant
    cases meant

end Joined

end ClusterSurvey.Pattern
