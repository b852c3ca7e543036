import ClusterSurvey.Proofs.Pattern.Alternatives
import Mathlib.Data.List.Infix
import Mathlib.Data.Nat.Bitwise

/-!
The places that patterns lead to, told by the characters around them: a set leads over one of its
characters, a condition stays where it holds, and a literal leads over its own characters. A pattern
occurs in a text where it leads anywhere from a place of the text.
-/
namespace ClusterSurvey.Pattern

deriving instance DecidableEq for CharSet, Look, Pattern

def literal (cs : List Char) : Pattern := cs.foldr (fun c p => .seq (.chars (.single c)) p) .empty

variable {text : List Char} {s j : Nat}

theorem testBit_places (conditions : List Bool) (i : Nat) :
    (places conditions).testBit i = conditions[i]?.getD false := by
  induction conditions generalizing i with
  | nil => simp [places]
  | cons b rest ih =>
    have bits : places (b :: rest) = Nat.bit b (places rest) := by
      cases b <;> simp [places, Nat.bit_val]
    rw [bits]
    cases i with
    | zero => rw [Nat.testBit_bit_zero, List.getElem?_cons_zero, Option.getD_some]
    | succ i => rw [Nat.testBit_bit_succ, ih, List.getElem?_cons_succ]

theorem ends_empty : ends text .empty s = s := rfl

theorem ends_seq (a b : Pattern) : ends text (.seq a b) s = ends text b (ends text a s) := rfl

theorem testBit_ends_chars {set : CharSet} :
    (ends text (.chars set) s).testBit j = true ↔
      ∃ i c, j = i + 1 ∧ s.testBit i = true ∧ text[i]? = some c ∧ set.has c.toNat = true := by
  rw [ends, Nat.testBit_shiftLeft, Nat.testBit_and, placesOf, testBit_places, List.getElem?_map]
  cases j with
  | zero => simp
  | succ i =>
    cases here : text[i]? <;> simp [here]

theorem testBit_ends_look {l : Look} :
    (ends text (.look l) s).testBit j = true ↔ s.testBit j = true ∧
      ∃ before after, (none :: text.map some)[j]? = some before ∧
        (text.map some ++ [none])[j]? = some after ∧
        l.holds before after = true := by
  rw [ends, Nat.testBit_and, placesAt, testBit_places, Bool.and_eq_true, List.getElem?_zipWith]
  cases (none :: text.map some)[j]? <;> cases (text.map some ++ [none])[j]? <;> simp

theorem testBit_ends_textStart :
    (ends text (.look .textStart) s).testBit j = true ↔ j = 0 ∧ s.testBit 0 = true := by
  rw [testBit_ends_look]
  cases j with
  | zero => cases text <;> simp [Look.holds]
  | succ i => simp [Look.holds]

theorem testBit_ends_textEnd :
    (ends text (.look .textEnd) s).testBit j = true ↔ j = text.length ∧ s.testBit j = true := by
  rw [testBit_ends_look, and_comm]
  refine and_congr_left fun _ => ?_
  have last : (text.map some ++ [none])[j]? = some none ↔ j = text.length := by
    rw [List.getElem?_append, List.length_map]
    split
    · rename_i inside
      simp [inside, Nat.ne_of_lt inside]
    · rw [List.getElem?_singleton]
      split <;> simp <;> omega
  constructor
  · rintro ⟨before, after, _, here, ends⟩
    rw [Option.isNone_iff_eq_none.mp ends] at here
    exact last.mp here
  · rintro rfl
    exact ⟨_, none, List.getElem?_eq_getElem (by simp), last.mpr rfl, rfl⟩

theorem has_single_iff {c d : Char} : (CharSet.single c).has d.toNat = true ↔ d = c := by
  simp only [CharSet.single, CharSet.has, List.any_cons, List.any_nil, Bool.or_false,
    Bool.and_eq_true, decide_eq_true_eq]
  exact ⟨fun same => Char.toNat_inj.mp (Nat.le_antisymm same.2 same.1), fun same => by simp [same]⟩

theorem cons_isPrefix_drop_iff {c : Char} {cs : List Char} {i : Nat} :
    c :: cs <+: text.drop i ↔ text[i]? = some c ∧ cs <+: text.drop (i + 1) := by
  rw [← List.drop_drop, ← List.head?_drop]
  cases text.drop i with
  | nil => simp
  | cons d rest => simp [eq_comm]

theorem testBit_ends_literal (cs : List Char) :
    (ends text (literal cs) s).testBit j = true ↔
      ∃ i, j = i + cs.length ∧ s.testBit i = true ∧ cs <+: text.drop i := by
  induction cs generalizing s with
  | nil => simp [literal, ends_empty]
  | cons c cs ih =>
    rw [literal, List.foldr_cons, ends_seq, ← literal, ih]
    simp only [testBit_ends_chars, has_single_iff, cons_isPrefix_drop_iff, List.length_cons]
    constructor
    · rintro ⟨_, length, ⟨i, _, rfl, start, here, rfl⟩, rest⟩
      exact ⟨i, by omega, start, here, rest⟩
    · rintro ⟨i, length, start, here, rest⟩
      exact ⟨i + 1, by omega, ⟨i, c, rfl, start, here, rfl⟩, rest⟩

theorem testBit_ends_anyOf (ps : List Pattern) :
    (ends text (anyOf ps) s).testBit j = true ↔ ∃ p ∈ ps, (ends text p s).testBit j = true := by
  induction ps with
  | nil => simp [anyOf, ends_chars_none]
  | cons p ps ih =>
    rw [List.exists_mem_cons_iff, ← ih, anyOf, List.foldr_cons, ends, Nat.testBit_or,
      Bool.or_eq_true]
    rfl

def everywhere (text : List Char) : Nat := 2 ^ (text.length + 1) - 1

theorem testBit_everywhere {i : Nat} : (everywhere text).testBit i = true ↔ i ≤ text.length := by
  rw [everywhere, Nat.testBit_two_pow_sub_one, decide_eq_true_eq, Nat.lt_succ_iff]

theorem occursIn_iff {p : Pattern} :
    p.occursIn text = true ↔ ∃ j, (p.ends text (everywhere text)).testBit j = true := by
  rw [occursIn, decide_eq_true_eq]
  constructor
  · exact Nat.exists_testBit_of_ne_zero
  · rintro ⟨j, here⟩ nowhere
    change p.ends text (everywhere text) = 0 at nowhere
    rw [nowhere, Nat.zero_testBit] at here
    cases here

end ClusterSurvey.Pattern
