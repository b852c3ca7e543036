import ClusterSurvey.Text.Split
import Mathlib.Data.List.Basic
import Mathlib.Data.List.Infix

/-!
Laws of parts of texts and of parts between separators. The parts are those of the library, so
joining them gives the text back; here is what a beginning of a text and its characters have to do
with the parts.
-/
namespace ClusterSurvey.Text

theorem occursIn_iff {part cs : List Char} : occursIn part cs = true ↔ part <:+: cs := by
  induction cs with
  | nil => simp [occursIn]
  | cons c cs ih => simp [occursIn, ih, List.infix_cons_iff]

theorem splitAt_eq_splitOn (sep : Char) (cs : List Char) : splitAt sep cs = cs.splitOn sep := by
  induction cs with
  | nil => rfl
  | cons c rest ih =>
    rw [splitAt, ih, List.splitOn_cons_eq_if_modifyHead]
    by_cases here : c = sep
    · simp [here]
    · simp only [here, ↓reduceIte, beq_iff_eq]
      cases parts : rest.splitOn sep with
      | nil => exact absurd parts (List.splitOn_ne_nil _ _)
      | cons part more => rfl

theorem exists_last_part (sep : Char) (cs : List Char) :
    ∃ before last, cs.splitOn sep = before ++ [last] :=
  (List.eq_nil_or_concat' _).resolve_left (List.splitOn_ne_nil sep cs)

theorem dropLast_splitOn_isPrefix (sep : Char) (p q : List Char) :
    (p.splitOn sep).dropLast <+: (p ++ q).splitOn sep := by
  induction p with
  | nil => simp
  | cons c rest ih =>
    rw [List.cons_append, List.splitOn_cons_eq_if_modifyHead, List.splitOn_cons_eq_if_modifyHead]
    split
    · rw [List.dropLast_cons_of_ne_nil (List.splitOn_ne_nil _ _)]
      exact (List.prefix_cons_inj _).mpr ih
    · cases short : rest.splitOn sep with
      | nil => exact absurd short (List.splitOn_ne_nil _ _)
      | cons part more =>
        cases more with
        | nil => simp
        | cons next later =>
          rw [short, List.dropLast_cons_of_ne_nil (List.cons_ne_nil _ _)] at ih
          cases long : (rest ++ q).splitOn sep with
          | nil => exact absurd long (List.splitOn_ne_nil _ _)
          | cons first others =>
            rw [long, List.cons_prefix_cons] at ih
            rw [List.modifyHead_cons, List.modifyHead_cons,
              List.dropLast_cons_of_ne_nil (List.cons_ne_nil _ _), List.cons_prefix_cons]
            exact ⟨by rw [ih.1], ih.2⟩

theorem mem_splitOn_iff {sep c : Char} {cs : List Char} :
    (∃ part ∈ cs.splitOn sep, c ∈ part) ↔ c ∈ cs ∧ c ≠ sep := by
  induction cs with
  | nil => simp
  | cons d rest ih =>
    rw [List.splitOn_cons_eq_if_modifyHead]
    split
    · rename_i here
      have same : d = sep := by simpa using here
      rw [List.exists_mem_cons_iff, ih, List.mem_cons, same]
      constructor
      · rintro (absurd | ⟨later, differs⟩)
        · cases absurd
        · exact ⟨Or.inr later, differs⟩
      · rintro ⟨here | later, differs⟩
        · exact (differs here).elim
        · exact Or.inr ⟨later, differs⟩
    · rename_i other
      have apart : d ≠ sep := by simpa using other
      cases parts : rest.splitOn sep with
      | nil => exact absurd parts (List.splitOn_ne_nil _ _)
      | cons part more =>
        rw [parts, List.exists_mem_cons_iff] at ih
        rw [List.modifyHead_cons, List.exists_mem_cons_iff, List.mem_cons,
          List.mem_cons, or_assoc, ih]
        constructor
        · rintro (here | ⟨later, differs⟩)
          · exact ⟨Or.inl here, here ▸ apart⟩
          · exact ⟨Or.inr later, differs⟩
        · rintro ⟨here | later, differs⟩
          · exact Or.inl here
          · exact Or.inr ⟨later, differs⟩

theorem intercalate_cons (sep : Char) (part : List Char) (rest : List (List Char)) :
    [sep].intercalate (part :: rest) = part ++ rest.flatMap (sep :: ·) := by
  induction rest generalizing part with
  | nil => simp
  | cons next more ih =>
    rw [List.intercalate_cons_cons, ih, List.flatMap_cons]
    simp

theorem parts_of_joined {sep : Char} {a b rest more : List Char} (plain : sep ∉ a)
    (plain' : sep ∉ b) (same : a ++ sep :: rest = b ++ sep :: more) : a = b ∧ rest = more := by
  induction a generalizing b with
  | nil =>
    cases b with
    | nil => exact ⟨rfl, (List.cons.inj same).2⟩
    | cons y b => exact absurd ((List.cons.inj same).1 ▸ List.mem_cons_self) plain'
  | cons x a ih =>
    cases b with
    | nil => exact absurd ((List.cons.inj same).1 ▸ List.mem_cons_self) plain
    | cons y b =>
      obtain ⟨here, later⟩ := List.cons.inj same
      obtain ⟨front, back⟩ :=
        ih (List.not_mem_of_not_mem_cons plain) (List.not_mem_of_not_mem_cons plain') later
      exact ⟨by rw [here, front], back⟩

theorem parts_of_flatMap {sep : Char} {xs ys : List (List Char)} (plain : ∀ x ∈ xs, sep ∉ x)
    (plain' : ∀ y ∈ ys, sep ∉ y) (same : xs.flatMap (sep :: ·) = ys.flatMap (sep :: ·)) :
    xs = ys := by
  have parts : ∀ zs : List (List Char), (∀ z ∈ zs, sep ∉ z) →
      (zs.flatMap (sep :: ·)).splitOn sep = [] :: zs := by
    intro zs clear
    have joined := intercalate_cons sep [] zs
    rw [List.nil_append] at joined
    rw [← joined]
    exact List.splitOn_intercalate sep (List.forall_mem_cons.mpr ⟨List.not_mem_nil, clear⟩)
      (List.cons_ne_nil _ _)
  exact (List.cons.inj ((parts xs plain).symm.trans ((congrArg _ same).trans (parts ys plain')))).2

end ClusterSurvey.Text
