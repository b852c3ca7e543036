import ClusterSurvey.Proofs.Pattern.Places
import ClusterSurvey.Proofs.Text.Trim
import ClusterSurvey.Survey.RunningImages

/-!
References to images put together from their parts, and what is read of them. The host is found
again whatever stands around it: the marker behind the scheme is the first one, the user ends with
the last `@` in front of the path, and the port begins with the last colon behind that. The images
of the vendor are those of its hosts and of hosts below them.
-/
namespace ClusterSurvey.Survey

def schemeMarker : List Char := "://".toList

/-- The characters that end the host with its user and port. -/
def EndsAuthority (c : Char) : Prop := c = '/' ∨ c = '?' ∨ c = '#'

instance : DecidablePred EndsAuthority :=
  fun c => inferInstanceAs (Decidable (c = '/' ∨ c = '?' ∨ c = '#'))

/-- The parts of a reference to an image. The tail is all that stands behind the host and its
port. -/
structure ImageReference where
  scheme : Option String
  user : Option String
  host : String
  port : Option String
  tail : String

namespace ImageReference

def authority (r : ImageReference) : String :=
  r.user.elim "" (· ++ "@") ++ r.host ++ r.port.elim "" (":" ++ ·)

def text (r : ImageReference) : String := r.scheme.elim "" (· ++ "://") ++ r.authority ++ r.tail

/-- Parts that can be told from one another when they are put together. -/
structure WellFormed (r : ImageReference) : Prop where
  scheme : ∀ s ∈ r.scheme, ¬ schemeMarker <:+: s.toList
  user : ∀ u ∈ r.user, ∀ c ∈ u.toList, ¬ EndsAuthority c
  some : r.host ≠ ""
  host : ∀ c ∈ r.host.toList, ¬ EndsAuthority c ∧ c ≠ '@' ∧ c ≠ ':'
  port : ∀ p ∈ r.port, ∀ c ∈ p.toList, c.isDigit = true
  tail : ∀ c ∈ r.tail.toList.head?, EndsAuthority c
  /-- Without a scheme nothing may look like the marker behind one. -/
  unmarked : r.scheme = none → ¬ schemeMarker <:+: r.text.toList

end ImageReference

/-! Places of characters. -/

theorem not_isPrefixOf_marker {c : Char} {front : List Char}
    (first : ¬ schemeMarker <:+: c :: front) (rest : List Char) :
    schemeMarker.isPrefixOf (c :: front ++ schemeMarker ++ rest) = false := by
  -- The marker does not overlap itself: it would have to begin in front of its own first place.
  refine Bool.eq_false_iff.mpr fun here => ?_
  match front with
  | [] => simp [schemeMarker, List.isPrefixOf] at here
  | [d] => simp [schemeMarker, List.isPrefixOf] at here
  | d :: e :: front =>
    have start : ':' = c ∧ '/' = d ∧ '/' = e := by simpa [schemeMarker, List.isPrefixOf] using here
    obtain ⟨rfl, rfl, rfl⟩ := start
    exact first (List.prefix_append schemeMarker front).isInfix

theorem behind_marker {front : List Char} (first : ¬ schemeMarker <:+: front) (rest : List Char) :
    behind schemeMarker (front ++ schemeMarker ++ rest) = some rest := by
  induction front with
  | nil => simp [schemeMarker, behind, List.isPrefixOf]
  | cons c front ih =>
    have later : ¬ schemeMarker <:+: front :=
      fun part => first (part.trans (List.suffix_cons c front).isInfix)
    have apart := not_isPrefixOf_marker first rest
    rw [List.cons_append, List.cons_append] at apart ⊢
    rw [behind, apart, if_neg Bool.false_ne_true, ih later]

theorem behind_of_absent {part cs : List Char} (some : part ≠ []) (absent : ¬ part <:+: cs) :
    behind part cs = none := by
  induction cs with
  | nil => simp [behind, some]
  | cons c cs ih =>
    have apart : part.isPrefixOf (c :: cs) = false :=
      Bool.eq_false_iff.mpr fun here => absent (List.isPrefixOf_iff_prefix.mp here).isInfix
    rw [behind, apart, if_neg Bool.false_ne_true,
      ih fun later => absent (later.trans (List.suffix_cons c cs).isInfix)]

theorem splitLast_append {sep : Char} (front : List Char) {back : List Char} (last : sep ∉ back) :
    splitLast sep (front ++ sep :: back) = some (front, back) := by
  have taken :=
    Text.takeWhile_ne_append (fun member => last (List.mem_reverse.mp member)) front.reverse
  have reversed : (front ++ sep :: back).reverse = back.reverse ++ sep :: front.reverse := by simp
  have here : (back.reverse ++ sep :: front.reverse).contains sep = true := by simp
  unfold splitLast
  dsimp only
  rw [reversed, if_pos here, taken, ← List.drop_drop, List.drop_left]
  simp

theorem splitLast_of_absent {sep : Char} {cs : List Char} (absent : sep ∉ cs) :
    splitLast sep cs = none := by
  simp [splitLast, absent]

namespace ImageReference

variable {r : ImageReference}

theorem toList_authority (r : ImageReference) : r.authority.toList =
    (r.user.elim [] fun u => u.toList ++ ['@']) ++
    (r.host.toList ++ r.port.elim [] fun p => ':' :: p.toList) := by
  unfold authority
  cases r.user <;> cases r.port <;> simp

theorem toList_text (r : ImageReference) : r.text.toList =
    (r.scheme.elim [] fun s => s.toList ++ schemeMarker) ++
    (r.authority.toList ++ r.tail.toList) := by
  unfold text
  cases r.scheme <;> simp [schemeMarker]

theorem apart_of_isDigit {c : Char} (digit : c.isDigit = true) : ¬ EndsAuthority c ∧ c ≠ '@' := by
  constructor
  · rintro (rfl | rfl | rfl) <;> simp at digit
  · rintro rfl
    simp at digit

theorem not_endsAuthority (formed : r.WellFormed) :
    ∀ c ∈ r.authority.toList, ¬ EndsAuthority c := by
  rw [toList_authority]
  refine List.forall_mem_append.mpr ⟨?_,
    List.forall_mem_append.mpr ⟨fun c member => (formed.host c member).1, ?_⟩⟩
  · cases user : r.user with
    | none => exact List.forall_mem_nil _
    | some u => exact List.forall_mem_append.mpr ⟨formed.user u user, by simp [EndsAuthority]⟩
  · cases port : r.port with
    | none => exact List.forall_mem_nil _
    | some p =>
      exact List.forall_mem_cons.mpr ⟨by simp [EndsAuthority], fun c member =>
        (apart_of_isDigit (formed.port p port c member)).1⟩

theorem behind_scheme (formed : r.WellFormed) :
    (behind schemeMarker r.text.toList).getD r.text.toList = r.authority.toList
      ++ r.tail.toList := by
  cases scheme : r.scheme with
  | none =>
    rw [behind_of_absent (by simp [schemeMarker]) (formed.unmarked scheme), toList_text, scheme]
    rfl
  | some s =>
    have marked : r.text.toList = s.toList ++ schemeMarker
        ++ (r.authority.toList ++ r.tail.toList) := by
      rw [toList_text, scheme]
      rfl
    rw [marked, behind_marker (formed.scheme s scheme), Option.getD_some]

theorem takeWhile_authority (formed : r.WellFormed) :
    (r.authority.toList ++ r.tail.toList).takeWhile
    (fun c => c ≠ '/' && c ≠ '?' && c ≠ '#') = r.authority.toList := by
  have goes : ∀ c, (c ≠ '/' && c ≠ '?' && c ≠ '#') = true ↔ ¬ EndsAuthority c := fun c => by
    simp [EndsAuthority, and_assoc]
  refine Text.takeWhile_of_boundary (fun c member =>
    (goes c).mpr (not_endsAuthority formed c member))
    fun c first => Bool.eq_false_iff.mpr fun on => (goes c).mp on (formed.tail c first)

def hostPort (r : ImageReference) : List Char :=
  r.host.toList ++ r.port.elim [] fun p => ':' :: p.toList

theorem behindUser_authority (formed : r.WellFormed) :
    behindUser r.authority.toList = r.hostPort := by
  have last : '@' ∉ r.hostPort := by
    intro member
    rcases List.mem_append.mp member with host | port
    · exact (formed.host '@' host).2.1 rfl
    · cases given : r.port with
      | none => simp [given] at port
      | some p =>
        rw [given] at port
        rcases List.mem_cons.mp port with colon | digits
        · cases colon
        · exact (apart_of_isDigit (formed.port p given '@' digits)).2 rfl
  rw [toList_authority, ← hostPort, behindUser]
  cases r.user with
  | none => rw [Option.elim_none, List.nil_append, splitLast_of_absent last]
  | some u =>
      rw [Option.elim_some, List.append_assoc, List.singleton_append,
        splitLast_append u.toList last]

theorem beforePort_hostPort (formed : r.WellFormed) : beforePort r.hostPort = r.host.toList := by
  unfold hostPort beforePort
  cases given : r.port with
  | none =>
    have absent : ':' ∉ r.host.toList := fun member => (formed.host ':' member).2.2 rfl
    rw [Option.elim_none, List.append_nil, splitLast_of_absent absent]
  | some p =>
    have last : ':' ∉ p.toList := fun member => by simpa using formed.port p given ':' member
    have digits : p.toList.all Char.isDigit = true := List.all_eq_true.mpr (formed.port p given)
    rw [Option.elim_some, splitLast_append r.host.toList last]
    exact if_pos digits

theorem imageHost?_text (formed : r.WellFormed) : imageHost? r.text = some r.host := by
  have some : r.host.toList.isEmpty = false := by simpa using formed.some
  rw [imageHost?, ← schemeMarker, behind_scheme formed, takeWhile_authority formed,
    behindUser_authority formed, beforePort_hostPort formed, some, if_neg Bool.false_ne_true,
    String.ofList_toList]

end ImageReference

/-! The pattern of the vendor's hosts. -/

def vendorNames : List String :=
  ["openshift.org", "registry.redhat.io", "registry.access.redhat.com"]

/-- What stands in front of a name: nothing at all, or a point behind the rest of the host. -/
def vendorLead : Pattern := .anyOf [.look .textStart, .chars (.single '.')]

def vendorPattern : Pattern :=
  .seq vendorLead (.seq (.anyOf (vendorNames.map fun name => .literal name.toList))
    (.seq (.look .textEnd) .empty))

theorem vendorHosts_spell : Pattern.ofString? vendorHosts = some vendorPattern := by decide +kernel

theorem testBit_ends_vendorLead {text : List Char} {s i : Nat} :
    (vendorLead.ends text s).testBit i = true ↔
      i = 0 ∧ s.testBit 0 = true ∨ ∃ k, i = k + 1 ∧ s.testBit k = true ∧ text[k]? = some '.' := by
  simp [vendorLead, Pattern.testBit_ends_anyOf, Pattern.testBit_ends_textStart,
    Pattern.testBit_ends_chars, Pattern.has_single_iff]

theorem occursIn_vendorPattern (text : List Char) :
    vendorPattern.occursIn text = true ↔
      ∃ name ∈ vendorNames, ∃ i, text.length = i + name.toList.length ∧
      (i = 0 ∨ ∃ k, i = k + 1 ∧ text[k]? = some '.') ∧ name.toList <+: text.drop i := by
  have starts : ∀ i, (vendorLead.ends text (Pattern.everywhere text)).testBit i = true ↔
      i = 0 ∨ ∃ k, i = k + 1 ∧ text[k]? = some '.' := fun i => by
    rw [testBit_ends_vendorLead]
    simp only [Pattern.testBit_everywhere, Nat.zero_le, and_true]
    refine or_congr_right (exists_congr fun k => and_congr_right fun _ =>
      and_iff_right_of_imp fun here => ?_)
    exact Nat.le_of_lt (List.getElem?_eq_some_iff.mp here).1
  rw [Pattern.occursIn_iff]
  simp only [vendorPattern, Pattern.ends_seq, Pattern.ends_empty, Pattern.testBit_ends_textEnd,
    Pattern.testBit_ends_anyOf, List.mem_map, exists_exists_and_eq_and,
    Pattern.testBit_ends_literal, starts]
  exact exists_eq_left

theorem isVendorHost_iff (host : String) :
    isVendorHost host = true ↔ ∃ name ∈ vendorNames, host = name ∨
      '.' :: name.toList <:+ host.toList := by
  rw [isVendorHost, vendorHosts_spell, Option.any_some, Pattern.isMatch, occursIn_vendorPattern]
  refine exists_congr fun name => and_congr_right fun _ => ?_
  constructor
  · rintro ⟨i, length, lead, here⟩
    have last : host.toList.drop i = name.toList :=
      (here.eq_of_length (by rw [List.length_drop]; omega)).symm
    rcases lead with rfl | ⟨k, rfl, point⟩
    · exact Or.inl (String.toList_inj.mp last)
    · obtain ⟨inside, sign⟩ := List.getElem?_eq_some_iff.mp point
      refine Or.inr ⟨host.toList.take k, ?_⟩
      rw [← last, ← sign, List.getElem_cons_drop, List.take_append_drop]
  · rintro (rfl | ⟨front, whole⟩)
    · exact ⟨0, by simp, Or.inl rfl, by simp⟩
    · refine ⟨front.length + 1, ?_, Or.inr ⟨front.length, rfl, ?_⟩, ?_⟩
      · rw [← whole]
        simp
        omega
      · rw [← whole]
        simp
      · rw [← whole]
        simp

/-- A reference that is put together from parts tells its host, and it is one of the vendor's
exactly if the host is one of three names or lies below one of them. -/
theorem reference_tells_host {r : ImageReference} (formed : r.WellFormed) :
    imageHost? r.text = some r.host ∧
      (isVendorImage r.text = true ↔
        ∃ name ∈ ["openshift.org", "registry.redhat.io", "registry.access.redhat.com"],
          r.host = name ∨ '.' :: name.toList <:+ r.host.toList) := by
  have host := ImageReference.imageHost?_text formed
  refine ⟨host, ?_⟩
  rw [isVendorImage, host, Option.any_some, isVendorHost_iff]
  rfl

theorem mirroredImage_told :
    let r : ImageReference :=
      ⟨some "a/b", some "u:1@v", "mirror.openshift.org", some "443", "/ubi8@sha256:00?x://y:1"⟩
    r.WellFormed ∧ r.text = "a/b://u:1@v@mirror.openshift.org:443/ubi8@sha256:00?x://y:1" ∧
      imageHost? r.text = some "mirror.openshift.org" ∧ isVendorImage r.text = true := by
  intro r
  have formed : r.WellFormed := by
    refine ⟨by decide, ?_, by decide, ?_, ?_, ?_, by decide⟩ <;> simp [r, EndsAuthority]
  obtain ⟨host, vendor⟩ := reference_tells_host formed
  exact ⟨formed, by decide, host, vendor.mpr ⟨"openshift.org", by simp, Or.inr (by decide)⟩⟩

end ClusterSurvey.Survey
