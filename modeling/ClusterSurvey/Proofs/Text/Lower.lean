import ClusterSurvey.Text.Case
import Mathlib.Data.List.Basic
import Mathlib.Data.List.Infix

/-!
Lower case of parts of a text. A character has the same lower case wherever it stands, but for the
capital sigma, whose form depends on the next characters in front and behind that are not passed
over. The lower case of a part is therefore found in that of each text around it exactly when both
forms of each of its sigmas are told apart by the part itself.
-/
namespace ClusterSurvey.Text

def capitalSigma : Char := 'Σ'

def smallSigma : Char := 'σ'

def finalSigma : Char := 'ς'

/-- Whether the first character that is not passed over has case, if there is such a character. -/
def neighbour? (cs : List Char) : Option Bool :=
  (cs.find? fun c => !within caseIgnorableTable c.toNat).map fun c => within casedTable c.toNat

/-- The lower case of a character with `before` in front of it, the nearest first, and `after`
behind it. -/
def lowerChar (before after : List Char) (c : Char) : List Char :=
  if c.toNat =
    0x3A3 then [Char.ofNat (if casedFirst before && !casedFirst after then 0x3C2 else 0x3C3)]
  else if c.toNat = 0x130 then ['i', Char.ofNat 0x307]
  else [Char.ofNat (moved lowerShifts c.toNat)]

def lowerWithin (before after : List Char) : List Char → List Char
  | [] => []
  | c :: cs => lowerChar before (cs ++ after) c ++ lowerWithin (c :: before) after cs

/-- Whether the neighbours that are there decide on the form of a sigma, whatever stands around
them: one in front without case, one behind with case, or one on each side. -/
def told (before after : List Char) : Bool :=
  neighbour? before == some false || neighbour? after == some true
    || (neighbour? before).isSome && (neighbour? after).isSome

def settledFrom : (before : List Char) → List Char → Bool
  | _, [] => true
  | before, c :: cs => (c.toNat ≠ 0x3A3 || told before cs) && settledFrom (c :: before) cs

/-- Whether a text decides on the forms of all its sigmas, whatever stands around it. -/
def settled (cs : List Char) : Bool := settledFrom [] cs

/-- Texts that differ at most in the case of ASCII letters. -/
def SameLetters (a b : List Char) : Prop := a.map Char.toLower = b.map Char.toLower

/-! The neighbours of a place. -/

theorem casedFirst_eq (cs : List Char) : casedFirst cs = (neighbour? cs).getD false := by
  induction cs with
  | nil => rfl
  | cons c cs ih =>
    rw [casedFirst, neighbour?, List.find?_cons]
    by_cases passed : within caseIgnorableTable c.toNat = true
    · simp only [passed, ↓reduceIte, Bool.not_true]
      exact ih
    · simp [passed]

theorem neighbour?_append (a b : List Char) :
    neighbour? (a ++ b) = (neighbour? a).or (neighbour? b) := by
  rw [neighbour?, List.find?_append, Option.map_or]
  rfl

theorem casedFirst_append (a b : List Char) :
    casedFirst (a ++ b) = (neighbour? a).getD (casedFirst b) := by
  rw [casedFirst_eq, casedFirst_eq, neighbour?_append]
  cases neighbour? a <;> rfl

/-! Parts of texts. -/

theorem lowerFrom_eq (before cs : List Char) : lowerFrom before cs = lowerWithin before [] cs := by
  induction cs generalizing before with
  | nil => rfl
  | cons c cs ih =>
    rw [lowerFrom, lowerWithin, ih, List.append_nil]
    rfl

theorem lowerWithin_append (before after a b : List Char) :
    lowerWithin before after (a ++ b) =
      lowerWithin before (b ++ after) a ++ lowerWithin (a.reverse ++ before) after b := by
  induction a generalizing before with
  | nil => rfl
  | cons c a ih =>
    rw [List.cons_append, lowerWithin, ih, lowerWithin, List.append_assoc, List.append_assoc,
      List.reverse_cons, List.append_assoc, List.singleton_append]

theorem lower_part (front piece back : List Char) :
    lowerWithin front.reverse back piece <:+: lower (front ++ piece ++ back) := by
  refine ⟨lowerWithin [] (piece ++ back) front, lowerWithin (front ++ piece).reverse [] back, ?_⟩
  rw [lower, lowerFrom_eq, lowerWithin_append, lowerWithin_append]
  simp

theorem lowerChar_of_told {before after : List Char} {c : Char}
    (decided : c.toNat ≠ 0x3A3 ∨ told before after = true) (b a : List Char) :
    lowerChar (before ++ b) (after ++ a) c = lowerChar before after c := by
  rcases decided with other | decided
  · rw [lowerChar, lowerChar, if_neg other, if_neg other]
  · have same : (casedFirst (before ++ b) && !casedFirst (after ++ a)) =
        (casedFirst before && !casedFirst after) := by
      rw [casedFirst_append, casedFirst_append, casedFirst_eq before, casedFirst_eq after]
      revert decided
      rw [told]
      rcases neighbour? before with _ | ⟨_ | _⟩ <;> rcases neighbour? after with _ |
        ⟨_ | _⟩ <;> simp
    rw [lowerChar, same, lowerChar]

theorem lowerWithin_of_settled {before cs : List Char} (decided : settledFrom before cs = true)
    (b a : List Char) :
    lowerWithin (before ++ b) a cs = lowerWithin before [] cs := by
  induction cs generalizing before with
  | nil => rfl
  | cons c cs ih =>
    simp only [settledFrom, ne_eq, decide_not, Bool.and_eq_true, Bool.or_eq_true,
      Bool.not_eq_eq_eq_not, Bool.not_true, decide_eq_false_iff_not] at decided
    rw [lowerWithin, lowerWithin, lowerChar_of_told decided.1, List.append_nil,
      ← List.cons_append, ih decided.2]

theorem lower_infix_of_settled {piece line : List Char} (decided : settled piece = true)
    (part : piece <:+: line) :
    lower piece <:+: lower line := by
  obtain ⟨front, back, rfl⟩ := part
  have whole := lower_part front piece back
  have same := lowerWithin_of_settled decided front.reverse back
  rw [List.nil_append] at same
  rwa [same, ← lowerFrom_eq] at whole

/-! A part that does not decide on a sigma. A letter in front or behind turns that one, and no other
the opposite way, so the lower case of the whole has too few sigmas of the form that the part alone
has. -/

theorem exists_untold {before cs : List Char} (unsettled : settledFrom before cs = false) :
    ∃ pre post, cs = pre ++ capitalSigma :: post ∧ told (pre.reverse ++ before) post = false := by
  induction cs generalizing before with
  | nil => cases unsettled
  | cons c cs ih =>
    rw [settledFrom, Bool.and_eq_false_iff] at unsettled
    rcases unsettled with here | later
    · simp only [ne_eq, decide_not, Bool.or_eq_false_iff, Bool.not_eq_eq_eq_not, Bool.not_false,
        decide_eq_true_eq] at here
      refine ⟨[], cs, ?_, here.2⟩
      rw [List.nil_append, List.cons.injEq]
      exact ⟨Char.ext (UInt32.toNat_inj.mp here.1), rfl⟩
    · obtain ⟨pre, post, rfl, untold⟩ := ih later
      refine ⟨c :: pre, post, rfl, ?_⟩
      rwa [List.reverse_cons, List.append_assoc]

/-- Sigmas are final in the second place where they are in the first one. -/
structure MoreFinal (before after before' after' : List Char) : Prop where
  front : casedFirst before = true → casedFirst before' = true
  behind : casedFirst after' = true → casedFirst after = true

theorem MoreFinal.append {before after before' after' : List Char}
    (more : MoreFinal before after before' after') (b a : List Char) :
    MoreFinal (b ++ before) (a ++ after) (b ++ before') (a ++ after') where
  front := by
    rw [casedFirst_append, casedFirst_append]
    cases neighbour? b
    · exact more.front
    · exact id
  behind := by
    rw [casedFirst_append, casedFirst_append]
    cases neighbour? a
    · exact more.behind
    · exact id

theorem MoreFinal.count_lowerChar {before after before' after' : List Char}
    (more : MoreFinal before after before' after')
    (c : Char) :
    (lowerChar before' after' c).count smallSigma ≤ (lowerChar before after c).count smallSigma ∧
      (lowerChar before after c).count finalSigma ≤
      (lowerChar before' after' c).count finalSigma := by
  unfold lowerChar
  split
  · have front := more.front
    have behind := more.behind
    revert front behind
    cases casedFirst before <;> cases casedFirst after <;> cases casedFirst before' <;>
      cases casedFirst after' <;>
      decide
  · exact ⟨Nat.le_refl _, Nat.le_refl _⟩

theorem MoreFinal.count_lowerWithin {before after before' after' : List Char}
    (more : MoreFinal before after before' after')
    (cs : List Char) :
    (lowerWithin before' after' cs).count smallSigma ≤
    (lowerWithin before after cs).count smallSigma ∧
    (lowerWithin before after cs).count finalSigma ≤
    (lowerWithin before' after' cs).count finalSigma := by
  induction cs generalizing before before' with
  | nil => exact ⟨Nat.le_refl _, Nat.le_refl _⟩
  | cons c cs ih =>
    have here := (more.append [] cs).count_lowerChar c
    have later := ih (more.append [c] [])
    simp only [lowerWithin, List.count_append]
    exact ⟨Nat.add_le_add here.1 later.1, Nat.add_le_add here.2 later.2⟩

theorem lowerChar_sigma (before after : List Char) :
    lowerChar before after capitalSigma =
      [if casedFirst before && !casedFirst after then finalSigma else smallSigma] := by
  rw [lowerChar, if_pos (by decide), apply_ite Char.ofNat]
  rfl

theorem MoreFinal.turned {before after before' after' : List Char}
    (more : MoreFinal before after before' after') (pre post : List Char)
    (small : (casedFirst (pre.reverse ++ before) && !casedFirst (post ++ after)) = false)
    (final : (casedFirst (pre.reverse ++ before') && !casedFirst (post ++ after')) = true) :
    let whole := pre ++ capitalSigma :: post
    (lowerWithin before' after' whole).count smallSigma <
      (lowerWithin before after whole).count smallSigma ∧
      (lowerWithin before after whole).count finalSigma <
        (lowerWithin before' after' whole).count finalSigma := by
  intro whole
  have left := (more.append [] (capitalSigma :: post)).count_lowerWithin pre
  have right := (more.append (capitalSigma :: pre.reverse) []).count_lowerWithin post
  rw [List.nil_append, List.nil_append] at left
  rw [List.nil_append, List.nil_append, List.cons_append, List.cons_append] at right
  simp only [whole, lowerWithin_append, lowerWithin, lowerChar_sigma, small, final, ↓reduceIte,
    Bool.false_eq_true, List.count_append]
  have one : [finalSigma].count smallSigma = 0 ∧ [smallSigma].count smallSigma = 1 ∧
      [finalSigma].count finalSigma = 1 ∧ [smallSigma].count finalSigma = 0 := by decide
  omega

/-- A letter with case and without a sigma in its lower case. -/
def letter : Char := 'a'

theorem casedFirst_letter (cs : List Char) : casedFirst (letter :: cs) = true := by
  have kind : within caseIgnorableTable letter.toNat = false ∧
      within casedTable letter.toNat = true := by
    decide +kernel
  rw [casedFirst, kind.1, kind.2]
  rfl

theorem lowerChar_letter (before after : List Char) : lowerChar before after letter = [letter] := by
  have low : moved lowerShifts letter.toNat = letter.toNat := by decide +kernel
  rw [lowerChar, if_neg (by decide), if_neg (by decide), low]
  rfl

theorem missing_behind_letter {pre post : List Char} (front : neighbour? pre.reverse = none)
    (behind : neighbour? post ≠ some true) :
    ¬ lower (pre ++ capitalSigma :: post) <:+: lower (letter :: (pre ++ capitalSigma :: post)) := by
  have more : MoreFinal [] [] [letter] [] := ⟨fun none => absurd none (by decide), id⟩
  have none : casedFirst post = false := by
    rw [casedFirst_eq]
    cases found : neighbour? post with
    | none => rfl
    | some cased =>
      cases cased with
      | false => rfl
      | true => exact absurd found behind
  have turned := more.turned pre post
    (by rw [casedFirst_append, front]; rfl)
    (by rw [casedFirst_append, front, Option.getD_none, casedFirst_letter,
        List.append_nil, none]; rfl)
  intro part
  have fewer := part.count_le smallSigma
  rw [lower, lower, lowerFrom_eq, lowerFrom_eq, lowerWithin, List.count_append, lowerChar_letter,
    show [letter].count smallSigma = 0 by decide, Nat.zero_add] at fewer
  exact absurd fewer (Nat.not_le_of_lt turned.1)

theorem missing_before_letter {pre post : List Char} (front : neighbour? pre.reverse = some true)
    (behind : neighbour? post = none) :
    ¬ lower (pre ++ capitalSigma :: post) <:+: lower (pre ++ capitalSigma :: post ++ [letter]) := by
  have more : MoreFinal [] [letter] [] [] := ⟨id, fun none => absurd none (by decide)⟩
  have turned := more.turned pre post
    (by rw [casedFirst_append post, behind, Option.getD_none, casedFirst_letter, Bool.not_true,
        Bool.and_false])
    (by rw [casedFirst_append, casedFirst_append, front, behind]; rfl)
  intro part
  have fewer := part.count_le finalSigma
  rw [lower, lower, lowerFrom_eq, lowerFrom_eq,
    lowerWithin_append _ _ (pre ++ capitalSigma :: post), List.count_append, lowerWithin,
    lowerWithin, lowerChar_letter, List.append_nil,
    show [letter].count finalSigma = 0 by decide, Nat.add_zero] at fewer
  exact absurd fewer (Nat.not_le_of_lt turned.2)

theorem exists_missing {piece : List Char} (unsettled : settled piece = false) :
    ∃ line, piece <:+: line ∧ ¬ lower piece <:+: lower line := by
  obtain ⟨pre, post, rfl, untold⟩ := exists_untold unsettled
  rw [List.append_nil, told] at untold
  simp only [Bool.or_eq_false_iff, beq_eq_false_iff_ne, ne_eq, Bool.and_eq_false_iff] at untold
  obtain ⟨⟨uncased, behind⟩, one⟩ := untold
  cases front : neighbour? pre.reverse with
  | none =>
      exact ⟨_, List.infix_cons_iff.mpr (Or.inr List.infix_rfl), missing_behind_letter front behind⟩
  | some cased =>
    have last : neighbour? post = none := by simpa [front] using one
    have inside : cased = true := by simpa [front] using uncased
    subst inside
    exact ⟨_, (List.prefix_append _ [letter]).isInfix, missing_before_letter front last⟩

/-- The lower case of a text is found in that of all texts around it exactly when the text decides
on its sigmas. -/
theorem settled_iff (piece : List Char) :
    settled piece = true ↔ ∀ line, piece <:+: line → lower piece <:+: lower line := by
  constructor
  · exact fun decided line => lower_infix_of_settled decided
  · intro always
    by_contra unsettled
    obtain ⟨line, part, missing⟩ := exists_missing (Bool.not_eq_true _ ▸ unsettled)
    exact missing (always line part)

theorem settled_of_no_sigma {cs : List Char} (none : capitalSigma ∉ cs) : settled cs = true := by
  by_contra unsettled
  obtain ⟨pre, post, rfl, _⟩ := exists_untold (Bool.not_eq_true _ ▸ unsettled)
  exact none (List.mem_append_right pre List.mem_cons_self)

/-! The case of ASCII letters. -/

theorem ascii_alike : ∀ n, 65 ≤ n → n ≤ 90 →
    within caseIgnorableTable n = within caseIgnorableTable (n + 32) ∧
      within casedTable n = within casedTable (n + 32) ∧
        moved lowerShifts n = moved lowerShifts (n + 32) := by
  have upTo : ∀ n < 91, 65 ≤ n → within caseIgnorableTable n = within caseIgnorableTable (n + 32) ∧
      within casedTable n = within casedTable (n + 32) ∧
        moved lowerShifts n = moved lowerShifts (n + 32) := by
    decide +kernel
  exact fun n low high => upTo n (Nat.lt_succ_of_le high) low

structure Alike (c d : Char) : Prop where
  passed : within caseIgnorableTable c.toNat = within caseIgnorableTable d.toNat
  cased : within casedTable c.toNat = within casedTable d.toNat
  lowered (before after : List Char) : lowerChar before after c = lowerChar before after d

theorem toNat_toLower {c : Char} (upper : 65 ≤ c.toNat ∧ c.toNat ≤ 90) :
    c.toLower.toNat = c.toNat + 32 := by
  have within : c.val ≥ 'A'.val ∧ c.val ≤ 'Z'.val := upper
  have moves : c.toLower.val = c.val + 32 := congrArg Char.val (dif_pos within)
  show c.toLower.val.toNat = c.val.toNat + 32
  rw [moves]
  rw [UInt32.toNat_add]
  have small : c.val.toNat ≤ 90 := upper.2
  simp
  omega

theorem toLower_of_not {c : Char} (other : ¬ (65 ≤ c.toNat ∧ c.toNat ≤ 90)) : c.toLower = c := by
  have within : ¬ (c.val ≥ 'A'.val ∧ c.val ≤ 'Z'.val) := other
  exact dif_neg within

theorem alike_toLower (c : Char) : Alike c c.toLower := by
  by_cases upper : 65 ≤ c.toNat ∧ c.toNat ≤ 90
  · have number := toNat_toLower upper
    obtain ⟨passed, cased, low⟩ := ascii_alike c.toNat upper.1 upper.2
    refine ⟨number ▸ passed, number ▸ cased, fun before after => ?_⟩
    rw [lowerChar, lowerChar, number, if_neg (by omega), if_neg (by omega), if_neg (by omega),
      if_neg (by omega), low]
  · rw [toLower_of_not upper]
    exact ⟨rfl, rfl, fun _ _ => rfl⟩

theorem alike_of_toLower {c d : Char} (same : c.toLower = d.toLower) : Alike c d := by
  have first := alike_toLower c
  have second := alike_toLower d
  rw [← same] at second
  exact ⟨first.passed.trans second.passed.symm, first.cased.trans second.cased.symm,
    fun before after => (first.lowered before after).trans (second.lowered before after).symm⟩

theorem SameLetters.casedFirst_eq {a b : List Char} (same : SameLetters a b) :
    casedFirst a = casedFirst b := by
  induction a generalizing b with
  | nil => rw [List.map_eq_nil_iff.mp (Eq.symm same)]
  | cons c a ih =>
    obtain ⟨d, b, rfl, here, later⟩ := List.map_eq_cons_iff.mp (Eq.symm same)
    have alike := alike_of_toLower here
    rw [casedFirst, casedFirst, alike.passed, alike.cased, ih later.symm]

theorem SameLetters.lowerWithin_eq {before before' cs cs' : List Char}
    (front : SameLetters before before') (same : SameLetters cs cs') :
    lowerWithin before [] cs = lowerWithin before' [] cs' := by
  induction cs generalizing before before' cs' with
  | nil =>
    rw [List.map_eq_nil_iff.mp (Eq.symm same)]
    rfl
  | cons c cs ih =>
    obtain ⟨d, cs', rfl, here, later⟩ := List.map_eq_cons_iff.mp (Eq.symm same)
    have next : SameLetters (c :: before) (d :: before') := by
      rw [SameLetters, List.map_cons, List.map_cons, here, front]
    have char : lowerChar before (cs ++ []) c = lowerChar before' (cs' ++ []) d := by
      rw [(alike_of_toLower here).lowered, lowerChar, lowerChar, front.casedFirst_eq,
        List.append_nil, List.append_nil, SameLetters.casedFirst_eq later.symm]
    rw [lowerWithin, lowerWithin, char, ih next later.symm]

theorem SameLetters.lower_eq {a b : List Char} (same : SameLetters a b) : lower a = lower b := by
  rw [lower, lower, lowerFrom_eq, lowerFrom_eq]
  exact lowerWithin_eq rfl same

theorem SameLetters.exists_infix {a a' b b' : List Char} (same : SameLetters a a')
    (same' : SameLetters b b') (part : a' <:+: b') : ∃ c, SameLetters b c ∧ a <:+: c := by
  obtain ⟨front, back, rfl⟩ := part
  refine ⟨front ++ a ++ back, ?_, front, back, rfl⟩
  rw [SameLetters, same', List.map_append, List.map_append, List.map_append, List.map_append, same]

end ClusterSurvey.Text
