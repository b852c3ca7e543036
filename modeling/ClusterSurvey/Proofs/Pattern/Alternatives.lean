import ClusterSurvey.Proofs.Pattern.Joining
import Mathlib.Algebra.GroupWithZero.Nat

/-!
What alternatives mean. They match where one of them does, each under the flags that those in front
of it leave, and what they need in room and depth is what all of them need together.
-/
namespace ClusterSurvey.Pattern

def patterns? (f : Flags) : List Expression → Option (List Pattern × Flags)
  | [] => some ([], f)
  | e :: es => do
    let (p, f) ← e.pattern? f
    let (ps, f) ← patterns? f es
    return (p :: ps, f)

/-- What matches where one of several patterns does. -/
def anyOf (ps : List Pattern) : Pattern := ps.foldr .alt (.chars .none)

def ofBranches : List Pattern → Pattern
  | [p] => p
  | ps => anyOf ps

theorem alt?_eq (f : Flags) (es : List Expression) :
    Expression.alt? f es = (patterns? f es).map fun r => (anyOf r.1, r.2) := by
  induction es generalizing f with
  | nil => rfl
  | cons e es ih =>
    rw [Expression.alt?, patterns?]
    cases e.pattern? f with
    | none => rfl
    | some first =>
      change (Expression.alt? first.2 es).bind _ = ((patterns? first.2 es).bind _).map _
      rw [ih]
      cases patterns? first.2 es <;> rfl

theorem patterns?_singleton (f : Flags) (e : Expression) :
    patterns? f [e] = (e.pattern? f).map fun r => ([r.1], r.2) := by
  rw [patterns?]
  cases e.pattern? f <;> rfl

theorem length_of_patterns? {f f' : Flags} {es : List Expression} {ps : List Pattern}
    (known : patterns? f es = some (ps, f')) : ps.length = es.length := by
  induction es generalizing f ps with
  | nil =>
    cases known
    rfl
  | cons e es ih =>
    obtain ⟨first, _, more⟩ := Option.bind_eq_some_iff.mp known
    obtain ⟨rest, behind, same⟩ := Option.bind_eq_some_iff.mp more
    cases same
    rw [List.length_cons, List.length_cons, ih behind]

theorem pattern?_ofBranches (f : Flags) (es : List Expression) :
    (Expression.ofBranches es).pattern? f = (patterns? f es).map fun r =>
    (ofBranches r.1, r.2) := by
  have several : ∀ es, es.length ≠ 1 → (Expression.alt es).pattern? f =
      (patterns? f es).map fun r => (ofBranches r.1, r.2) := by
    intro es count
    rw [Expression.pattern?, alt?_eq]
    refine Option.map_congr fun r known => ?_
    have same := length_of_patterns? known
    match r, same with
    | ([], _), _ => rfl
    | ([p], _), same => exact absurd same.symm count
    | (p :: q :: ps, _), _ => rfl
  match es with
  | [] => exact several [] (by simp)
  | [e] =>
    rw [patterns?_singleton, Option.map_map]
    rw [Expression.ofBranches]
    cases e.pattern? f <;> rfl
  | e :: e' :: es => exact several _ (by simp)

theorem patterns?_append (f : Flags) (es es' : List Expression) :
    patterns? f (es ++ es') = (patterns? f es).bind fun r => (patterns? r.2 es').map fun r' =>
      (r.1 ++ r'.1, r'.2) := by
  induction es generalizing f with
  | nil =>
    rw [List.nil_append, patterns?, Option.bind_some]
    cases patterns? f es' <;> rfl
  | cons e es ih =>
    rw [List.cons_append, patterns?, patterns?]
    cases e.pattern? f with
    | none => rfl
    | some first =>
      change (patterns? first.2 (es ++ es')).bind _ = ((patterns? first.2 es).bind _).bind _
      rw [ih]
      cases patterns? first.2 es with
      | none => rfl
      | some rest =>
        change ((patterns? rest.2 es').map _).bind _ = (patterns? rest.2 es').map _
        cases patterns? rest.2 es' <;> rfl

/-! Matching. -/

theorem ends_chars_none (text : List Char) (s : Nat) : ends text (.chars .none) s = 0 := by
  have nowhere : placesOf .none text = 0 := by
    unfold placesOf places
    induction text with
    | nil => rfl
    | cons c text ih =>
      rw [List.map_cons, List.foldr_cons, ih]
      rfl
  rw [ends, nowhere, Nat.and_zero, Nat.zero_shiftLeft]

theorem occursIn_alt (p q : Pattern) (text : List Char) :
    (alt p q).occursIn text = (p.occursIn text || q.occursIn text) := by
  simp [occursIn, ends]

theorem occursIn_anyOf (ps : List Pattern) (text : List Char) :
    (anyOf ps).occursIn text = ps.any (·.occursIn text) := by
  induction ps with
  | nil => simp [anyOf, occursIn, ends_chars_none]
  | cons p ps ih =>
    rw [List.any_cons, ← ih]
    exact occursIn_alt p (anyOf ps) text

theorem occursIn_ofBranches (ps : List Pattern) (text : List Char) :
    (ofBranches ps).occursIn text = ps.any (·.occursIn text) := by
  match ps with
  | [] => exact occursIn_anyOf [] text
  | [p] => simp [ofBranches]
  | p :: q :: ps => exact occursIn_anyOf (p :: q :: ps) text

/-! Room and depth. -/

def roomOf (ps : List Pattern) : Nat := (ps.map fun p => p.weight + 1).sum

theorem weight_anyOf (ps : List Pattern) : (anyOf ps).weight = roomOf ps + 1 := by
  induction ps with
  | nil => rfl
  | cons p ps ih =>
    have step : (anyOf (p :: ps)).weight = p.weight + (anyOf ps).weight + 1 := rfl
    rw [step, ih, roomOf, roomOf, List.map_cons, List.sum_cons]
    omega

theorem roomOf_le_weight (ps : List Pattern) : roomOf ps ≤ (ofBranches ps).weight + 1 := by
  match ps with
  | [] => simp [roomOf]
  | [p] => simp [roomOf, ofBranches]
  | p :: q :: ps =>
    have whole := weight_anyOf (p :: q :: ps)
    have several : ofBranches (p :: q :: ps) = anyOf (p :: q :: ps) := rfl
    rw [several, whole]
    omega

theorem weight_ofBranches_le (ps : List Pattern) : (ofBranches ps).weight ≤ roomOf ps + 1 := by
  match ps with
  | [] => simp [ofBranches, weight_anyOf]
  | [p] => simp [roomOf, ofBranches]; omega
  | p :: q :: ps =>
    have whole := weight_anyOf (p :: q :: ps)
    exact Nat.le_of_eq whole

theorem roomOf_append (ps qs : List Pattern) : roomOf (ps ++ qs) = roomOf ps + roomOf qs := by
  rw [roomOf, List.map_append, List.sum_append]
  rfl

theorem roomOf_le_of_sublist {ps qs : List Pattern} (part : ps.Sublist qs) :
    roomOf ps ≤ roomOf qs := by
  induction part with
  | slnil => exact Nat.le_refl _
  | cons q part ih => exact Nat.le_trans ih (Nat.le_add_left _ _)
  | cons_cons q part ih => exact Nat.add_le_add_left ih _

theorem weight_ofBranches_mono {ps qs : List Pattern} (some : ps ≠ []) (part : ps.Sublist qs) :
    (ofBranches ps).weight ≤ (ofBranches qs).weight := by
  match qs, part with
  | [], part => exact absurd (List.sublist_nil.mp part) some
  | [q], part =>
    exact Nat.le_of_eq (by rw [(List.sublist_singleton.mp part).resolve_left some])
  | q :: r :: qs, part =>
    calc (ofBranches ps).weight
      _ ≤ roomOf ps + 1 := weight_ofBranches_le ps
      _ ≤ roomOf (q :: r :: qs) + 1 := Nat.add_le_add_right (roomOf_le_of_sublist part) 1
      _ = (ofBranches (q :: r :: qs)).weight := (weight_anyOf (q :: r :: qs)).symm

theorem depths_le_iff {es : List Expression} {n : Nat} :
    Expression.depths es ≤ n ↔ ∀ e ∈ es, e.depth ≤ n := by
  induction es with
  | nil => simp [Expression.depths]
  | cons e es ih => rw [Expression.depths, Nat.max_le, ih, List.forall_mem_cons]

theorem depth_ofBranches_le (es : List Expression) :
    (Expression.ofBranches es).depth ≤ Expression.depths es + 1 := by
  match es with
  | [] => simp [Expression.ofBranches, Expression.depth]
  | [e] => simp [Expression.ofBranches, Expression.depths]
  | e :: e' :: es => simp [Expression.ofBranches, Expression.depth]

theorem depth_le_depth_ofBranches {es : List Expression} {e : Expression} (member : e ∈ es) :
    e.depth ≤ (Expression.ofBranches es).depth := by
  have all := depths_le_iff.mp (Nat.le_refl (Expression.depths es)) e member
  match es with
  | [] => cases member
  | [e'] => rwa [Expression.depths, Expression.depths, Nat.max_zero] at all
  | e' :: e'' :: es => exact Nat.le_succ_of_le all

theorem depth_ofBranches_mono {es fs : List Expression} (some : es ≠ []) (part : es.Sublist fs) :
    (Expression.ofBranches es).depth ≤ (Expression.ofBranches fs).depth := by
  match fs, part with
  | [], part => exact absurd (List.sublist_nil.mp part) some
  | [f], part =>
    exact Nat.le_of_eq (by rw [(List.sublist_singleton.mp part).resolve_left some])
  | f :: g :: fs, part =>
    have inside : Expression.depths es ≤ Expression.depths (f :: g :: fs) :=
      depths_le_iff.mpr fun e member => depths_le_iff.mp (Nat.le_refl _) e (part.subset member)
    calc (Expression.ofBranches es).depth
      _ ≤ Expression.depths es + 1 := depth_ofBranches_le es
      _ ≤ Expression.depths (f :: g :: fs) + 1 := Nat.add_le_add_right inside 1
      _ = (Expression.ofBranches (f :: g :: fs)).depth := by
        simp [Expression.ofBranches, Expression.depth]

end ClusterSurvey.Pattern
