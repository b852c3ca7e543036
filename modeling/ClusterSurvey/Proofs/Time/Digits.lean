import ClusterSurvey.Time.Rfc3339
import Mathlib.Data.List.Lex
import Mathlib.Data.String.Basic

/-!
The order of texts with digits. Numbers in a fixed number of digits have the order of their texts,
and so have numbers that are made up of others, if the parts of the texts have fixed lengths too.
-/
namespace ClusterSurvey.Rfc3339

/-- Two texts of one length are ordered like two numbers. -/
structure OrderedAs (xs ys : List Char) (i j : Nat) : Prop where
  length : xs.length = ys.length
  less : xs < ys ↔ i < j
  same : xs = ys ↔ i = j

theorem append_lt_append {xs ys us vs : List Char} (length : xs.length = ys.length) :
    xs ++ us < ys ++ vs ↔ xs < ys ∨ xs = ys ∧ us < vs := by
  induction xs generalizing ys with
  | nil =>
    cases ys with
    | nil => simp
    | cons d ys => cases length
  | cons c xs ih =>
    cases ys with
    | nil => cases length
    | cons d ys =>
      have rest := ih (Nat.succ.inj length)
      simp only [List.cons_append, List.cons_lt_cons_iff, rest, List.cons.injEq]
      tauto

theorem OrderedAs.refl (cs : List Char) : OrderedAs cs cs 0 0 := ⟨rfl, by simp, by simp⟩

theorem multiples_lt_iff {i j k l bound : Nat} (kBound : k < bound) (lBound : l < bound) :
    i * bound + k < j * bound + l ↔ i < j ∨ i = j ∧ k < l := by
  have step : ∀ {a b : Nat}, a < b → a * bound + bound ≤ b * bound := by
    intro a b less
    rw [← Nat.succ_mul]
    exact Nat.mul_le_mul_right bound less
  rcases Nat.lt_trichotomy i j with before | rfl | after
  · have := step before
    omega
  · omega
  · have := step after
    omega

theorem multiples_eq_iff {i j k l bound : Nat} (kBound : k < bound) (lBound : l < bound) :
    i * bound + k = j * bound + l ↔ i = j ∧ k = l := by
  have less := multiples_lt_iff (i := i) (j := j) kBound lBound
  have greater := multiples_lt_iff (i := j) (j := i) lBound kBound
  constructor
  · intro same
    omega
  · rintro ⟨rfl, rfl⟩
    rfl

theorem OrderedAs.append {xs ys us vs : List Char} {i j k l bound : Nat}
    (first : OrderedAs xs ys i j) (second : OrderedAs us vs k l) (kBound : k < bound)
    (lBound : l < bound) :
    OrderedAs (xs ++ us) (ys ++ vs) (i * bound + k) (j * bound + l) := by
  constructor
  · rw [List.length_append, List.length_append, first.length, second.length]
  · rw [append_lt_append first.length, first.less, first.same, second.less,
      multiples_lt_iff kBound lBound]
  · rw [multiples_eq_iff kBound lBound, ← first.same, ← second.same]
    constructor
    · intro whole
      exact List.append_inj whole first.length
    · rintro ⟨rfl, rfl⟩
      rfl

theorem OrderedAs.cons {xs ys : List Char} {i j : Nat} (ordered : OrderedAs xs ys i j) (c : Char) :
    OrderedAs (c :: xs) (c :: ys) i j := by
  constructor
  · rw [List.length_cons, List.length_cons, ordered.length]
  · simp [ordered.less]
  · simp [ordered.same]

theorem digit_ordered {i j : Nat} (iBound : i < 10) (jBound : j < 10) :
    OrderedAs [Nat.digitChar i] [Nat.digitChar j] i j := by
  have all : ∀ i < 10, ∀ j < 10, (Nat.digitChar i < Nat.digitChar j ↔ i < j) ∧
      (Nat.digitChar i = Nat.digitChar j ↔ i = j) := by decide
  obtain ⟨less, same⟩ := all i iBound j jBound
  constructor
  · rfl
  · rw [List.cons_lt_cons_iff, less]
    simp
  · simpa using same

theorem padded_succ {n k : Nat} (some : 0 < n) (bound : k < 10 ^ (n + 1)) :
    padded (n + 1) k = padded n (k / 10) ++ [Nat.digitChar (k % 10)] := by
  unfold padded
  dsimp only
  by_cases small : k < 10
  · rw [Nat.toDigits_of_lt_base small, Nat.div_eq_of_lt small, Nat.mod_eq_of_lt small,
      Nat.toDigits_zero]
    obtain ⟨m, rfl⟩ := Nat.exists_eq_succ_of_ne_zero (Nat.ne_of_gt some)
    simp [List.replicate_succ']
  · rw [Nat.toDigits_eq_if (by decide), if_neg small, ← List.append_assoc]
    simp

theorem padded_ordered {n j k : Nat} (some : 0 < n) (jBound : j < 10 ^ n) (kBound : k < 10 ^ n) :
    OrderedAs (padded n j) (padded n k) j k := by
  induction n, some using Nat.le_induction generalizing j k with
  | base =>
    have one : ∀ i < 10, padded 1 i = [Nat.digitChar i] := by decide
    rw [one j jBound, one k kBound]
    exact digit_ordered jBound kBound
  | succ n some ih =>
    rw [padded_succ some jBound, padded_succ some kBound]
    have front := ih (j := j / 10) (k := k / 10) (by omega) (by omega)
    have ordered :=
      front.append (digit_ordered (Nat.mod_lt j (by decide)) (Nat.mod_lt k (by decide)))
      (Nat.mod_lt j (by decide)) (Nat.mod_lt k (by decide))
    rwa [Nat.div_add_mod', Nat.div_add_mod'] at ordered

end ClusterSurvey.Rfc3339
