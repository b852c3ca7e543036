import ClusterSurvey.Text.Blank
import Mathlib.Data.List.DropRight
import Mathlib.Data.List.Infix

/-!
Texts without white space at their ends. Trimming takes a part out of a text that begins and ends
with other characters, and it gives such a part back from between white space.
-/
namespace ClusterSurvey.Text

theorem takeWhile_of_boundary {p : Char → Bool} {front back : List Char}
    (inside : ∀ c ∈ front, p c = true) (boundary : ∀ c ∈ back.head?, p c = false) :
    (front ++ back).takeWhile p = front := by
  rw [List.takeWhile_append_of_pos inside]
  cases back with
  | nil => rw [List.takeWhile_nil, List.append_nil]
  | cons c rest => rw [List.takeWhile_cons_of_neg (by simp [boundary c rfl]), List.append_nil]

theorem dropWhile_of_boundary {p : Char → Bool} {front back : List Char}
    (inside : ∀ c ∈ front, p c = true) (boundary : ∀ c ∈ back.head?, p c = false) :
    (front ++ back).dropWhile p = back := by
  rw [List.dropWhile_append_of_pos inside]
  cases back with
  | nil => rfl
  | cons c rest => rw [List.dropWhile_cons_of_neg (by simp [boundary c rfl])]

theorem forall_ne_of_not_mem {sep : Char} {cs : List Char} (absent : sep ∉ cs) :
    ∀ c ∈ cs, decide (c ≠ sep) = true :=
  fun _ member => decide_eq_true fun same => absent (same ▸ member)

theorem takeWhile_ne_append {sep : Char} {front : List Char} (absent : sep ∉ front)
    (back : List Char) :
    (front ++ sep :: back).takeWhile (· ≠ sep) = front :=
  takeWhile_of_boundary (forall_ne_of_not_mem absent) (by simp)

structure Trimmed (cs : List Char) : Prop where
  front : ∀ c ∈ cs.head?, isBlank c = false
  back : ∀ c ∈ cs.getLast?, isBlank c = false

variable {cs front back : List Char}

instance : Decidable (Trimmed cs) :=
  decidable_of_iff (cs.head?.all (!isBlank ·) = true ∧ cs.getLast?.all (!isBlank ·) = true) <| by
    simp only [Option.all_eq_true, Bool.not_eq_true']
    exact ⟨fun ends => ⟨ends.1, ends.2⟩, fun trimmed => ⟨trimmed.front, trimmed.back⟩⟩

theorem trimEnd_eq_rdropWhile (cs : List Char) : trimEnd cs = cs.rdropWhile isBlank := rfl

theorem trim_isInfix (cs : List Char) : trim cs <:+: cs :=
  (List.rdropWhile_prefix isBlank _).isInfix.trans (List.dropWhile_suffix isBlank).isInfix

theorem trim_eq_nil_iff : trim cs = [] ↔ ∀ c ∈ cs, isBlank c = true := by
  rw [trim, trimEnd_eq_rdropWhile, List.rdropWhile_eq_nil_iff]
  constructor
  · intro rest c member
    rw [← List.takeWhile_append_dropWhile (p := isBlank) (l := cs), List.mem_append] at member
    rcases member with blank | later
    · exact List.mem_takeWhile_imp blank
    · exact rest c later
  · exact fun all c member => all c ((List.dropWhile_sublist isBlank).subset member)

theorem trimmed_trim (cs : List Char) : Trimmed (trim cs) where
  front c first := by
    have begins : trim cs <+: cs.dropWhile isBlank := List.rdropWhile_prefix isBlank _
    have kept : (cs.dropWhile isBlank).head? = some c := by
      obtain ⟨rest, whole⟩ := begins
      rw [← whole, List.head?_append, first, Option.some_or]
    have solid := List.head?_dropWhile_not isBlank cs
    rw [kept] at solid
    exact solid
  back c last := by
    have some : trim cs ≠ [] := fun none => by simp [none] at last
    rw [List.getLast?_eq_some_getLast some, Option.mem_some_iff] at last
    have solid := List.rdropWhile_last_not isBlank _ some
    rw [← last]
    exact Bool.eq_false_iff.mpr solid

theorem trimEnd_append_cons {c : Char} (solid : isBlank c = false) :
    trimEnd (front ++ c :: back) = front ++ c :: trimEnd back := by
  have kept : (c :: front.reverse).dropWhile isBlank = c :: front.reverse :=
    List.dropWhile_cons_of_neg (by simp [solid])
  rw [trimEnd, trimEnd, List.reverse_append, List.reverse_cons, List.append_assoc,
    List.singleton_append, List.dropWhile_append, kept]
  split
  · rename_i none
    rw [List.isEmpty_iff.mp none]
    simp
  · simp

theorem trimEnd_append_of_blank (blank : ∀ c ∈ back, isBlank c = true) :
    trimEnd (cs ++ back) = trimEnd cs := by
  rw [trimEnd, List.reverse_append,
    List.dropWhile_append_of_pos fun c member => blank c (List.mem_reverse.mp member), trimEnd]

theorem trim_padded (trimmed : Trimmed cs) (before : ∀ c ∈ front, isBlank c = true)
    (after : ∀ c ∈ back, isBlank c = true) : trim (front ++ cs ++ back) = cs := by
  cases cs with
  | nil =>
    rw [List.append_nil, trim_eq_nil_iff]
    exact List.forall_mem_append.mpr ⟨before, after⟩
  | cons c rest =>
    have begins : ∀ d ∈ (c :: rest ++ back).head?, isBlank d = false :=
      fun d first => trimmed.front d first
    rw [List.append_assoc, trim, dropWhile_of_boundary before begins, trimEnd_append_of_blank after,
      trimEnd_eq_rdropWhile, List.rdropWhile_eq_self_iff]
    intro some
    rw [trimmed.back _ (List.getLast?_eq_some_getLast some)]
    exact Bool.false_ne_true

end ClusterSurvey.Text
