import ClusterSurvey.Proofs.Redaction.Matches
import Mathlib.Data.Char
import Mathlib.Data.List.TakeWhile

/-!
Web addresses and dotted addresses as languages, and that the finders of free text find exactly
them. A finder prefers some lengths of a number to others, but whether it finds an address at a
place does not depend on that.
-/
namespace ClusterSurvey.Redaction

/-- `(https|http)://\S*` -/
def IsWebAddress (cs : List Char) : Prop :=
  ∃ scheme rest : List Char, (scheme = ['h', 't', 't', 'p', 's'] ∨ scheme = ['h', 't', 't', 'p']) ∧
    cs = scheme ++ ':' :: '/' :: '/' :: rest ∧ ∀ c ∈ rest, Text.isBlank c = false

/-- `25[0-5]|2[0-4][0-9]|[01]?[0-9][0-9]?` -/
inductive IsOctet : List Char → Prop where
  | high (c : Char) : inRange '0' '5' c = true → IsOctet ['2', '5', c]
  | middle (b c : Char) : inRange '0' '4' b = true → inRange '0' '9' c = true → IsOctet ['2', b, c]
  | low (a b c : Char) : inRange '0' '1' a = true → inRange '0' '9' b = true →
      inRange '0' '9' c = true →
      IsOctet [a, b, c]
  | two (a b : Char) : inRange '0' '9' a = true → inRange '0' '9' b = true → IsOctet [a, b]
  | one (a : Char) : inRange '0' '9' a = true → IsOctet [a]

inductive IsOctetTail : Nat → List Char → Prop where
  | nil : IsOctetTail 0 []
  | cons {o rest : List Char} {more : Nat} : IsOctet o → IsOctetTail more rest →
      IsOctetTail (more + 1) ('.' :: (o ++ rest))

/-- Four numbers from 0 to 255 with points between them. -/
def IsDottedAddress (cs : List Char) : Prop :=
  ∃ o rest, IsOctet o ∧ IsOctetTail 3 rest ∧ cs = o ++ rest

theorem inRange_iff {low high c : Char} : inRange low high c = true ↔ low ≤ c ∧ c ≤ high := by
  simp [inRange]

theorem eq_of_inRange_self {c d : Char} (h : inRange c c d = true) : d = c :=
  le_antisymm (inRange_iff.mp h).2 (inRange_iff.mp h).1

theorem digit_of_inRange {high c : Char} (below : high ≤ '9') (h : inRange '0' high c = true) :
    inRange '0' '9' c = true := by
  obtain ⟨lower, upper⟩ := inRange_iff.mp h
  exact inRange_iff.mpr ⟨lower, upper.trans below⟩

/-- One or two digits at the front are a number, and so the lengths of both are tried. -/
theorem mem_shortLengths {n : Nat} {a b : Char} {rest : List Char} (ha : inRange '0' '9' a = true)
    (member : n ∈ if inRange '0' '9' b = true then [2, 1] else [1]) :
    ∃ o after, a :: b :: rest = o ++ after ∧ o.length = n ∧ IsOctet o := by
  have single : ∃ o after, a :: b :: rest = o ++ after ∧ o.length = 1 ∧ IsOctet o :=
    ⟨[a], b :: rest, rfl, rfl, .one a ha⟩
  split at member
  · rename_i hb
    rcases List.mem_pair.mp member with rfl | rfl
    · exact ⟨[a, b], rest, rfl, rfl, .two a b ha hb⟩
    · exact single
  · rw [List.mem_singleton.mp member]
    exact single

theorem mem_octetLengths_iff {n : Nat} {cs : List Char} :
    n ∈ octetLengths cs ↔ ∃ o rest, cs = o ++ rest ∧ o.length = n ∧ IsOctet o := by
  constructor
  · intro member
    match cs with
    | [] => simp [octetLengths] at member
    | [a] =>
      simp [octetLengths] at member
      obtain ⟨ha, rfl⟩ := member
      exact ⟨[a], [], rfl, rfl, .one a ha⟩
    | [a, b] =>
      simp [octetLengths] at member
      rcases member with ⟨⟨ha, hb⟩, rfl⟩ | ⟨ha, short⟩
      · exact ⟨[a, b], [], rfl, rfl, .two a b (digit_of_inRange (by decide) ha) hb⟩
      · exact mem_shortLengths ha short
    | a :: b :: c :: rest =>
      simp [octetLengths] at member
      rcases member with ⟨⟨⟨ha, hb⟩, hc⟩, rfl⟩ | ⟨⟨⟨ha, hb⟩, hc⟩, rfl⟩ |
        ⟨⟨ha, hb⟩, long⟩ | ⟨ha, short⟩
      · rw [eq_of_inRange_self ha, eq_of_inRange_self hb]
        exact ⟨['2', '5', c], rest, rfl, rfl, .high c hc⟩
      · rw [eq_of_inRange_self ha]
        exact ⟨['2', b, c], rest, rfl, rfl, .middle b c hb hc⟩
      · have pair : ∃ o after, a :: b :: c :: rest = o ++ after ∧ o.length = 2 ∧ IsOctet o :=
          ⟨[a, b], c :: rest, rfl, rfl, .two a b (digit_of_inRange (by decide) ha) hb⟩
        split at long
        · rename_i hc
          rcases List.mem_pair.mp long with rfl | rfl
          · exact ⟨[a, b, c], rest, rfl, rfl, .low a b c ha hb hc⟩
          · exact pair
        · rw [List.mem_singleton.mp long]
          exact pair
      · exact mem_shortLengths ha short
  · rintro ⟨o, rest, rfl, rfl, octet⟩
    cases octet with
    | high c hc =>
      have two : inRange '2' '2' '2' = true := by decide
      have five : inRange '5' '5' '5' = true := by decide
      simp [octetLengths, two, five, hc]
    | middle b c hb hc =>
      have two : inRange '2' '2' '2' = true := by decide
      simp [octetLengths, two, hb, hc]
    | low a b c ha hb hc => simp [octetLengths, ha, hb, hc]
    | two a b ha hb => simp [octetLengths, ha, hb]
    | one a ha =>
      have last : 1 ∈ if (rest[0]?).any (inRange '0' '9') = true then [2, 1] else [1] := by
        split <;> simp
      simp only [octetLengths, List.mem_append]
      right
      simpa [ha] using last

theorem octetTail?_sound {more n : Nat} {cs : List Char} (found : octetTail? more cs = some n) :
    ∃ w rest, cs = w ++ rest ∧ w.length = n ∧ IsOctetTail more w := by
  induction more generalizing n cs with
  | zero =>
    rw [octetTail?, Option.some.injEq] at found
    exact ⟨[], cs, rfl, found, .nil⟩
  | succ more ih =>
    match cs with
    | [] => simp [octetTail?] at found
    | c :: cs =>
      by_cases point : c = '.'
      · subst point
        rw [octetTail?] at found
        obtain ⟨length, member, later⟩ := List.exists_of_findSome?_eq_some found
        obtain ⟨o, rest, rfl, rfl, octet⟩ := mem_octetLengths_iff.mp member
        rw [List.drop_left] at later
        obtain ⟨m, there, rfl⟩ := Option.map_eq_some_iff.mp later
        obtain ⟨w, after, rfl, rfl, tail⟩ := ih there
        refine ⟨'.' :: (o ++ w), after, by simp, ?_, .cons octet tail⟩
        simp only [List.length_cons, List.length_append]
        omega
      · simp [octetTail?, point] at found

theorem octetTail?_complete {more : Nat} {w : List Char} (tail : IsOctetTail more w)
    (rest : List Char) :
    ∃ n, octetTail? more (w ++ rest) = some n := by
  induction tail with
  | nil => exact ⟨0, by rw [octetTail?]⟩
  | @cons o w more octet tail ih =>
    obtain ⟨n, found⟩ := ih
    have member : o.length ∈ octetLengths (o ++ (w ++ rest)) :=
      mem_octetLengths_iff.mpr ⟨o, w ++ rest, rfl, rfl, octet⟩
    refine Option.isSome_iff_exists.mp ?_
    rw [List.cons_append, List.append_assoc, octetTail?, List.findSome?_isSome_iff]
    refine ⟨o.length, member, ?_⟩
    rw [List.drop_left, found]
    rfl

theorem ne_x_of_inRange {low high c : Char} (below : high ≤ '9') (h : inRange low high c = true) :
    'x' ≠ c := by
  rintro rfl
  exact absurd ((inRange_iff.mp h).2.trans below) (by decide)

theorem IsOctet.clean {o : List Char} (octet : IsOctet o) : 'x' ∉ o := by
  have nine : '9' ≤ '9' := le_refl _
  cases octet with
  | high c hc => simp [ne_x_of_inRange (by decide) hc]
  | middle b c hb hc => simp [ne_x_of_inRange (by decide) hb, ne_x_of_inRange nine hc]
  | low a b c ha hb hc =>
      simp [ne_x_of_inRange (by decide) ha, ne_x_of_inRange nine hb, ne_x_of_inRange nine hc]
  | two a b ha hb => simp [ne_x_of_inRange nine ha, ne_x_of_inRange nine hb]
  | one a ha => simp [ne_x_of_inRange nine ha]

theorem IsOctetTail.clean {more : Nat} {w : List Char} (tail : IsOctetTail more w) : 'x' ∉ w := by
  induction tail with
  | nil => simp
  | cons octet tail ih => simp [octet.clean, ih]

theorem finds_dottedAddress : Finds ipv4Address? IsDottedAddress where
  sound := by
    intro cs n found
    obtain ⟨length, member, later⟩ := List.exists_of_findSome?_eq_some found
    obtain ⟨o, rest, rfl, rfl, octet⟩ := mem_octetLengths_iff.mp member
    rw [List.drop_left] at later
    obtain ⟨m, there, rfl⟩ := Option.map_eq_some_iff.mp later
    obtain ⟨w, after, rfl, rfl, tail⟩ := octetTail?_sound there
    exact ⟨o ++ w, after, (List.append_assoc _ _ _).symm, List.length_append, o, w,
      octet, tail, rfl⟩
  complete := by
    rintro w rest ⟨o, tail, octet, numbers, rfl⟩
    have member : o.length ∈ octetLengths (o ++ (tail ++ rest)) :=
      mem_octetLengths_iff.mpr ⟨o, tail ++ rest, rfl, rfl, octet⟩
    obtain ⟨m, there⟩ := octetTail?_complete numbers rest
    have some : (ipv4Address? (o ++ (tail ++ rest))).isSome = true := by
      rw [ipv4Address?, List.findSome?_isSome_iff]
      refine ⟨o.length, member, ?_⟩
      rw [List.drop_left, there]
      rfl
    obtain ⟨n, found⟩ := Option.isSome_iff_exists.mp some
    obtain ⟨length, inside, later⟩ := List.exists_of_findSome?_eq_some found
    obtain ⟨p, _, _, size, number⟩ := mem_octetLengths_iff.mp inside
    obtain ⟨k, _, rfl⟩ := Option.map_eq_some_iff.mp later
    have positive : 0 < length := by
      rw [← size]
      cases number <;> simp
    refine ⟨length + k - 1, ?_⟩
    rw [List.append_assoc, found]
    exact congrArg Option.some (by omega)
  core := by
    rintro w ⟨o, tail, octet, numbers, rfl⟩
    refine ⟨o ++ tail, ⟨o, tail, octet, numbers, rfl⟩, List.infix_rfl, ?_⟩
    simp [octet.clean, numbers.clean]

theorem isWebAddress_takeWhile {scheme : List Char} (known : scheme = ['h', 't', 't', 'p', 's'] ∨
    scheme = ['h', 't', 't', 'p']) (after : List Char) :
    IsWebAddress (scheme ++ ':' :: '/' :: '/' :: after.takeWhile fun c => !Text.isBlank c) := by
  refine ⟨scheme, _, known, rfl, fun c member => ?_⟩
  simpa using List.mem_takeWhile_imp member

theorem webAddress?_secure (after : List Char) :
    webAddress? (['h', 't', 't', 'p', 's', ':', '/', '/'] ++ after) =
      some (8 + (after.takeWhile fun c => !Text.isBlank c).length) := by
  have front : "https://".toList.isPrefixOf (['h', 't', 't', 'p', 's', ':', '/', '/'] ++ after) =
      true := by
    simp
  rw [webAddress?, if_pos front]
  rfl

theorem webAddress?_plain (after : List Char) :
    webAddress? (['h', 't', 't', 'p', ':', '/', '/'] ++ after) =
      some (7 + (after.takeWhile fun c => !Text.isBlank c).length) := by
  have other : ¬ "https://".toList.isPrefixOf (['h', 't', 't', 'p', ':', '/', '/'] ++ after) =
      true := by
    simp
  have front : "http://".toList.isPrefixOf (['h', 't', 't', 'p', ':', '/', '/'] ++ after) =
      true := by
    simp
  rw [webAddress?, if_neg other, if_pos front]
  rfl

theorem finds_webAddress : Finds webAddress? IsWebAddress where
  sound := by
    intro cs n found
    have word : ∀ head after : List Char, cs = head ++ after →
        n = head.length + (after.takeWhile fun c => !Text.isBlank c).length →
        IsWebAddress (head ++ after.takeWhile fun c => !Text.isBlank c) →
        ∃ w rest, cs = w ++ rest ∧ w.length = n ∧ IsWebAddress w := by
      intro head after split size inside
      refine ⟨_, after.dropWhile fun c => !Text.isBlank c, ?_, ?_, inside⟩
      · rw [split, List.append_assoc, List.takeWhile_append_dropWhile]
      · rw [size, List.length_append]
    by_cases secure : "https://".toList.isPrefixOf cs = true
    · obtain ⟨after, rfl⟩ := List.isPrefixOf_iff_prefix.mp secure
      have same := found.symm.trans (webAddress?_secure after)
      exact word _ after rfl (Option.some.inj same) (isWebAddress_takeWhile (Or.inl rfl) after)
    · by_cases plain : "http://".toList.isPrefixOf cs = true
      · obtain ⟨after, rfl⟩ := List.isPrefixOf_iff_prefix.mp plain
        have same := found.symm.trans (webAddress?_plain after)
        exact word _ after rfl (Option.some.inj same) (isWebAddress_takeWhile (Or.inr rfl) after)
      · rw [webAddress?, if_neg secure, if_neg plain] at found
        cases found
  complete := by
    rintro w rest ⟨scheme, after, rfl | rfl, rfl, _⟩
    · exact ⟨_, (webAddress?_secure (after ++ rest)).trans (congrArg some (Nat.succ_add 7 _))⟩
    · exact ⟨_, (webAddress?_plain (after ++ rest)).trans (congrArg some (Nat.succ_add 6 _))⟩
  core := by
    rintro w ⟨scheme, after, known, rfl, _⟩
    refine ⟨scheme ++ [':', '/', '/'], ⟨scheme, [], known, rfl, by simp⟩, ⟨[], after, by simp⟩, ?_⟩
    rcases known with rfl | rfl
    · decide
    · decide

end ClusterSurvey.Redaction
