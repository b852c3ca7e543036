import ClusterSurvey.Bytes.Basic
import ClusterSurvey.Redaction.FreeText
import Mathlib.Data.List.Forall2
import Mathlib.Data.List.Infix

/-!
What is left when matches are masked. A finder that tells at each place whether a word of a language
begins there is run from left to right. Nothing of the language is left behind, wherever the matches
overlap: each word has a part in the language without an `x`; such a part of the result is a part of
the text at a place where the search was, and there it would have been found. Where the text has no
word of the language nothing changes.
-/
namespace ClusterSurvey.Redaction

/-- A word of a language stands somewhere in a text. -/
def Contains (language : List Char → Prop) (cs : List Char) : Prop := ∃ w, language w ∧ w <:+: cs

/-- A finder of a language tells a word at the front by its length, and does not miss one. Each word
has a part in the language that masking cannot bring about. -/
structure Finds (find : List Char → Option Nat) (language : List Char → Prop) : Prop where
  sound : ∀ cs n, find cs = some n → ∃ w rest, cs = w ++ rest ∧ w.length = n ∧ language w
  complete : ∀ w rest, language w → ∃ n, find (w ++ rest) = some (n + 1)
  core : ∀ w, language w → ∃ v, language v ∧ v <:+: w ∧ 'x' ∉ v

/-- A byte is kept or becomes an `x`. -/
def KeptOrMasked (before after : UInt8) : Prop := after = before ∨ after = 120

theorem maskChars_eq_cons (c : Char) (rest : List Char) :
    ∃ masked, maskChars (c :: rest) = 'x' :: masked := by
  have positive := c.utf8Size_pos
  obtain ⟨n, size⟩ : ∃ n, c.utf8Size = n + 1 := ⟨c.utf8Size - 1, by omega⟩
  refine ⟨List.replicate n 'x' ++ maskChars rest, ?_⟩
  simp only [maskChars, List.flatMap_cons, size, List.replicate_succ, List.cons_append]

theorem eq_x_of_mem_maskChars {cs : List Char} {c : Char} (member : c ∈ maskChars cs) :
    c = 'x' := by
  obtain ⟨d, _, inside⟩ := List.mem_flatMap.mp member
  exact (List.mem_replicate.mp inside).2

/-- What has no `x` does not begin in what was masked. -/
theorem infix_of_infix_masked {v cs rest : List Char} (clean : 'x' ∉ v)
    (h : v <:+: maskChars cs ++ rest) :
    v <:+: rest := by
  have empty : ∀ part, part <:+: maskChars cs → 'x' ∉ part → part = [] := by
    intro part inside none
    refine List.eq_nil_iff_forall_not_mem.mpr fun c member => ?_
    exact none (eq_x_of_mem_maskChars (inside.subset member) ▸ member)
  rcases List.infix_append_iff.mp h with masked | behind | ⟨first, later, split, masked, behind⟩
  · rw [empty v masked clean]
    exact List.nil_infix
  · exact behind
  · have nothing : first = [] :=
      empty first masked.isInfix fun inside => clean (split ▸ List.mem_append_left _ inside)
    rw [split, nothing, List.nil_append]
    exact behind.isInfix

theorem ofChars_maskChars (cs : List Char) :
    Bytes.ofChars (maskChars cs) = List.replicate (Bytes.ofChars cs).length 120 := by
  have each : ∀ n, Bytes.ofChars (List.replicate n 'x') = List.replicate n 120 := by
    intro n
    induction n with
    | zero => rfl
    | succ n ih =>
      rw [List.replicate_succ, List.replicate_succ, ← ih]
      rfl
  induction cs with
  | nil => rfl
  | cons c rest ih =>
    have first : maskChars (c :: rest) = List.replicate c.utf8Size 'x' ++ maskChars rest := rfl
    have bytes : Bytes.ofChars (c :: rest) = String.utf8EncodeChar c ++ Bytes.ofChars rest := rfl
    rw [first, Bytes.ofChars_append, each, ih, bytes, List.length_append,
      String.length_utf8EncodeChar, List.replicate_add]

theorem masked_bytes (bytes : Bytes) :
    List.Forall₂ KeptOrMasked bytes (List.replicate bytes.length 120) := by
  induction bytes with
  | nil => exact List.Forall₂.nil
  | cons b rest ih => exact List.Forall₂.cons (Or.inr rfl) ih

variable {find : List Char → Option Nat} {language : List Char → Prop}

theorem maskMatches_found {c : Char} {rest : List Char} {n : Nat}
    (found : find (c :: rest) = some (n + 1)) :
    maskMatches find (c :: rest) = maskChars (c :: rest.take n)
      ++ maskMatches find (rest.drop n) := by
  rw [maskMatches, found]
  rfl

theorem maskMatches_missed {c : Char} {rest : List Char}
    (missed : ∀ n, find (c :: rest) ≠ some (n + 1)) :
    maskMatches find (c :: rest) = c :: maskMatches find rest := by
  rw [maskMatches]
  split
  · rename_i n found
    exact absurd found (missed n)
  · rfl

theorem prefix_of_prefix_maskMatches {v cs : List Char} (clean : 'x' ∉ v)
    (h : v <+: maskMatches find cs) :
    v <+: cs := by
  induction cs using maskMatches.induct find generalizing v with
  | case1 => simpa [maskMatches] using h
  | case2 c rest n found ih =>
    cases v with
    | nil => exact List.nil_prefix
    | cons d v =>
      obtain ⟨masked, first⟩ := maskChars_eq_cons c (rest.take n)
      rw [maskMatches_found found, first, List.cons_append, List.cons_prefix_cons] at h
      exact absurd (h.1 ▸ List.mem_cons_self) clean
  | case3 c rest missed ih =>
    cases v with
    | nil => exact List.nil_prefix
    | cons d v =>
      rw [maskMatches_missed missed, List.cons_prefix_cons] at h
      exact List.cons_prefix_cons.mpr ⟨h.1,
        ih (fun later => clean (List.mem_cons_of_mem d later)) h.2⟩

theorem infix_of_infix_maskMatches {v cs : List Char} (clean : 'x' ∉ v)
    (h : v <:+: maskMatches find cs) :
    v <:+: cs := by
  induction cs using maskMatches.induct find with
  | case1 => simpa [maskMatches] using h
  | case2 c rest n found ih =>
    rw [maskMatches_found found] at h
    have behind : v <:+: rest :=
      (ih (infix_of_infix_masked clean h)).trans (List.drop_suffix n rest).isInfix
    exact behind.trans (List.suffix_cons c rest).isInfix
  | case3 c rest missed ih =>
    rw [maskMatches_missed missed] at h
    rcases List.infix_cons_iff.mp h with front | behind
    · rw [← maskMatches_missed missed] at front
      exact (prefix_of_prefix_maskMatches clean front).isInfix
    · exact (ih behind).trans (List.suffix_cons c rest).isInfix

theorem Finds.ne_nil (finds : Finds find language) {w : List Char} (inside : language w) :
    w ≠ [] := by
  rintro rfl
  obtain ⟨n, found⟩ := finds.complete [] [] inside
  obtain ⟨w, rest, split, length, _⟩ := finds.sound _ _ found
  have total := congrArg List.length split
  simp only [List.length_append, List.length_nil, length] at total
  omega

theorem not_contains_maskMatches (finds : Finds find language) (cs : List Char) :
    ¬ Contains language (maskMatches find cs) := by
  rintro ⟨w, inside, stands⟩
  obtain ⟨v, core, part, clean⟩ := finds.core w inside
  have left : v <:+: maskMatches find cs := part.trans stands
  clear stands part inside
  induction cs using maskMatches.induct find with
  | case1 =>
    rw [maskMatches, List.infix_nil] at left
    exact finds.ne_nil core left
  | case2 c rest n found ih =>
    rw [maskMatches_found found] at left
    exact ih (infix_of_infix_masked clean left)
  | case3 c rest missed ih =>
    have kept := maskMatches_missed missed
    rw [kept] at left
    rcases List.infix_cons_iff.mp left with front | behind
    · rw [← kept] at front
      obtain ⟨after, split⟩ := prefix_of_prefix_maskMatches clean front
      obtain ⟨n, found⟩ := finds.complete v after core
      rw [split] at found
      exact missed n found
    · exact ih behind

theorem contains_of_contains_maskMatches {other : List Char → Option Nat}
    (finds : Finds find language) {cs : List Char} (h : Contains language (maskMatches other cs)) :
    Contains language cs := by
  obtain ⟨w, inside, stands⟩ := h
  obtain ⟨v, core, part, clean⟩ := finds.core w inside
  exact ⟨v, core, infix_of_infix_maskMatches clean (part.trans stands)⟩

theorem maskMatches_eq_self (finds : Finds find language) {cs : List Char}
    (none : ¬ Contains language cs) :
    maskMatches find cs = cs := by
  induction cs using maskMatches.induct find with
  | case1 => rw [maskMatches]
  | case2 c rest n found ih =>
    obtain ⟨w, after, split, _, inside⟩ := finds.sound _ _ found
    exact absurd ⟨w, inside, ⟨[], after, split.symm⟩⟩ none
  | case3 c rest missed ih =>
    have behind : ¬ Contains language rest := by
      rintro ⟨w, inside, stands⟩
      exact none ⟨w, inside, stands.trans (List.suffix_cons c rest).isInfix⟩
    rw [maskMatches_missed missed, ih behind]

theorem maskMatches_bytes (find : List Char → Option Nat) (cs : List Char) :
    List.Forall₂ KeptOrMasked (Bytes.ofChars cs) (Bytes.ofChars (maskMatches find cs)) := by
  induction cs using maskMatches.induct find with
  | case1 =>
    rw [maskMatches]
    exact List.Forall₂.nil
  | case2 c rest n found ih =>
    have whole : c :: rest = (c :: rest.take n) ++ rest.drop n := by
      rw [List.cons_append, List.take_append_drop]
    rw [maskMatches_found found, whole, Bytes.ofChars_append, Bytes.ofChars_append,
      ofChars_maskChars]
    exact List.rel_append (masked_bytes _) ih
  | case3 c rest missed ih =>
    have same : List.Forall₂ KeptOrMasked (String.utf8EncodeChar c) (String.utf8EncodeChar c) :=
      List.forall₂_same.mpr fun _ _ => Or.inl rfl
    rw [maskMatches_missed missed]
    exact List.rel_append same ih

theorem keptOrMasked_trans {a b c : Bytes} (first : List.Forall₂ KeptOrMasked a b)
    (second : List.Forall₂ KeptOrMasked b c) : List.Forall₂ KeptOrMasked a c := by
  induction first generalizing c with
  | nil => exact second
  | cons one rest ih =>
    cases second with
    | cons two later =>
      refine List.Forall₂.cons ?_ (ih later)
      rcases two with kept | masked
      · exact kept ▸ one
      · exact Or.inr masked

end ClusterSurvey.Redaction
