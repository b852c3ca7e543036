import ClusterSurvey.Proofs.Text.Split
import ClusterSurvey.Recording.EntryName
import Mathlib.Data.List.Basic

/-!
Which names of entries are stored as they are. A path without empty, `.` and `..` parts is stored
under itself whatever its length, unless the bytes that the header has room for contain a NUL; then
it is refused.
-/
namespace ClusterSurvey.Recording.EntryName

/-- A part that stands for itself. -/
def PlainPart (part : List Char) : Prop := part ≠ [] ∧ part ≠ ['.'] ∧ part ≠ ['.', '.']

/-- A relative path without empty parts and without `.` and `..`. -/
def Plain (path : String) : Prop := ∀ part ∈ Text.splitAt '/' path.toList, PlainPart part

instance (path : String) : Decidable (Plain path) := by unfold Plain PlainPart; infer_instance

/-- Whether the bytes that the header has room for contain a NUL. -/
def NulInHeader (path : String) : Prop := '\x00' ∈ beginningWithin fieldSize path.toList

instance (path : String) : Decidable (NulInHeader path) := by unfold NulInHeader; infer_instance

theorem byteSize_append (a b : List Char) : byteSize (a ++ b) = byteSize a + byteSize b := by
  induction a with
  | nil => exact (Nat.zero_add _).symm
  | cons c rest ih =>
    simp only [List.cons_append, byteSize]
    omega

theorem beginningWithin_isPrefix (room : Nat) (cs : List Char) :
    beginningWithin room cs <+: cs := by
  induction cs generalizing room with
  | nil => simp [beginningWithin]
  | cons c rest ih =>
    simp only [beginningWithin]
    split
    · exact (List.prefix_cons_inj c).mpr (ih _)
    · exact List.nil_prefix

theorem byteSize_beginningWithin (room : Nat) (cs : List Char) :
    byteSize (beginningWithin room cs) ≤ room := by
  induction cs generalizing room with
  | nil => simp [beginningWithin, byteSize]
  | cons c rest ih =>
    simp only [beginningWithin]
    split
    · rename_i fits
      have later := ih (room - c.utf8Size)
      simp only [byteSize]
      omega
    · exact Nat.zero_le _

theorem beginningWithin_of_fits {room : Nat} {cs : List Char} (fits : byteSize cs ≤ room) :
    beginningWithin room cs = cs := by
  induction cs generalizing room with
  | nil => rfl
  | cons c rest ih =>
    rw [byteSize] at fits
    have later : byteSize rest ≤ room - c.utf8Size := by omega
    rw [beginningWithin, if_pos (by omega), ih later]

/-- A character takes at most four bytes, so a beginning that leaves something out fills nearly all
of the room. -/
theorem room_lt_of_cut {room : Nat} {cs : List Char} (cut : room < byteSize cs) :
    room < byteSize (beginningWithin room cs) + 4 := by
  induction cs generalizing room with
  | nil => simp [byteSize] at cut
  | cons c rest ih =>
    have wide : c.utf8Size ≤ 4 := Char.utf8Size_le_four c
    rw [byteSize] at cut
    simp only [beginningWithin]
    split
    · have less : room - c.utf8Size < byteSize rest := by omega
      have later := ih less
      rw [byteSize]
      omega
    · omega

/-- The bytes that a field of a header takes, with the slash that a further segment needs. -/
def used (field : List Char) : Nat := if field.isEmpty then 0 else byteSize field + 1

def spread : List (List Char) → Nat
  | [] => 0
  | part :: rest => byteSize part + 1 + spread rest

def width (ss : List Segment) : Nat := spread (ss.map Segment.chars)

/-- Segments that are not refused for what they are: steps upwards only at the end of a
beginning. -/
def Passable (beginning : Bool) : List Segment → Prop
  | [] => True
  | .root :: _ => False
  | .upwards :: rest => beginning = true ∧ rest = []
  | _ :: rest => Passable beginning rest

theorem put_eq {field text : List Char} (fits : byteSize field + byteSize text ≤ fieldSize)
    (clean : '\x00' ∉ text) : put field text = .ok (field ++ text) := by
  have none : text.any (·.toNat = 0) = false := by
    rw [List.any_eq_false]
    intro c member same
    have nul : c = '\x00' := Char.toNat_inj.mp (by simpa using same)
    exact clean (nul ▸ member)
  rw [put, if_neg (by omega), none]
  rfl

theorem put_ok {field text chars : List Char} (h : put field text = .ok chars) :
    chars = field ++ text ∧ '\x00' ∉ text := by
  unfold put at h
  split at h
  · cases h
  · split at h
    · cases h
    · rename_i none
      cases h
      refine ⟨rfl, fun member => none ?_⟩
      exact List.any_eq_true.mpr ⟨_, member, rfl⟩

def suffixOf (field : List Char) (s : Segment) : List Char :=
  (if field.isEmpty then [] else ['/']) ++ s.chars

theorem putSegment_ok {field chars : List Char} {s : Segment} (h : putSegment field s = .ok chars) :
    chars = field ++ suffixOf field s ∧ '\x00' ∉ s.chars := by
  unfold putSegment at h
  unfold suffixOf
  cases field with
  | nil => 
    obtain ⟨same, clean⟩ := put_ok h
    exact ⟨same, clean⟩
  | cons c rest =>
    simp only [List.isEmpty_cons, Bool.false_eq_true, ↓reduceIte] at h ⊢
    cases slash : put (c :: rest) ['/'] with
    | error e => rw [slash] at h; cases h
    | ok more =>
      rw [slash] at h
      obtain ⟨same, clean⟩ := put_ok h
      rw [same, (put_ok slash).1, List.append_assoc]
      exact ⟨rfl, clean⟩

theorem putSegment_eq {field : List Char} {s : Segment}
    (fits : used field + byteSize s.chars ≤ fieldSize) (clean : '\x00' ∉ s.chars) :
    putSegment field s = .ok (field ++ suffixOf field s) := by
  cases field with
  | nil => exact put_eq (by simpa [used, byteSize] using fits) clean
  | cons c rest =>
    have slash : byteSize ['/'] = 1 := rfl
    simp only [used, List.isEmpty_cons, Bool.false_eq_true, ↓reduceIte] at fits
    have first : put (c :: rest) ['/'] = .ok (c :: rest ++ ['/']) :=
      put_eq (by omega) (by decide)
    have second : put (c :: rest ++ ['/']) s.chars = .ok (c :: rest ++ ['/'] ++ s.chars) :=
      put_eq (by rw [byteSize_append]; omega) clean
    simp only [putSegment, suffixOf, List.isEmpty_cons, Bool.false_eq_true, ↓reduceIte, first]
    rw [← List.append_assoc]
    exact second

theorem putAll_clean {beginning alone : Bool} {field chars : List Char} {ss : List Segment}
    (h : putAll beginning alone field ss = .ok chars) : ∀ s ∈ ss, '\x00' ∉ s.chars := by
  induction ss generalizing field with
  | nil => simp
  | cons s rest ih =>
    have through : (putSegment field s).bind (putAll beginning alone · rest) = .ok chars →
        ∀ t ∈ s :: rest, '\x00' ∉ t.chars := by
      intro bound
      cases first : putSegment field s with
      | error e => rw [first] at bound; cases bound
      | ok more =>
        rw [first] at bound
        exact List.forall_mem_cons.mpr ⟨(putSegment_ok first).2, ih bound⟩
    cases s with
    | root => cases h
    | current =>
      rw [putAll] at h
      split at h
      · exact through h
      · exact List.forall_mem_cons.mpr ⟨by decide, ih h⟩
    | upwards =>
      rw [putAll] at h
      split at h
      · exact through h
      · cases h
    | named name => exact through h

theorem putAll_named {beginning alone : Bool} {field chars : List Char} {parts : List (List Char)}
    (h : putAll beginning alone field (parts.map .named) = .ok chars) (begun : field ≠ []) :
    chars = field ++ parts.flatMap ('/' :: ·) := by
  induction parts generalizing field with
  | nil =>
    cases h
    simp
  | cons part rest ih =>
    simp only [List.map_cons, putAll] at h
    cases first : putSegment field (.named part) with
    | error e => rw [first] at h; cases h
    | ok more =>
      rw [first] at h
      have same := (putSegment_ok first).1
      have suffix : suffixOf field (.named part) = '/' :: part := by
        rw [suffixOf, if_neg (by simpa using begun)]
        rfl
      rw [suffix] at same
      rw [ih h (by simp [same]), same, List.flatMap_cons, List.append_assoc]

theorem putAll_fits (beginning alone : Bool) {field : List Char} {ss : List Segment}
    (fits : used field + width ss ≤ fieldSize + 1) (clean : ∀ s ∈ ss, '\x00' ∉ s.chars)
    (filled : ∀ s ∈ ss, s.chars ≠ []) (passes : Passable beginning ss) :
    ∃ chars, putAll beginning alone field ss = .ok chars ∧ used chars ≤ used field + width ss ∧
      ((field ≠ [] ∨ ∃ s ∈ ss, s ≠ .current) → chars ≠ []) := by
  induction ss generalizing field with
  | nil => exact ⟨field, rfl, Nat.le_refl _, by simp⟩
  | cons s rest ih =>
    obtain ⟨cleanFirst, cleanRest⟩ := List.forall_mem_cons.mp clean
    obtain ⟨filledFirst, filledRest⟩ := List.forall_mem_cons.mp filled
    have split : width (s :: rest) = byteSize s.chars + 1 + width rest := rfl
    have more : (field ++ suffixOf field s) ≠ [] := by simp [suffixOf, filledFirst]
    have grown : used (field ++ suffixOf field s) = used field + byteSize s.chars + 1 := by
      rw [used, if_neg (by simpa using more), byteSize_append, suffixOf, used]
      cases field with
      | nil => simp [byteSize]
      | cons c cs =>
        rw [byteSize_append]
        have slash : byteSize ['/'] = 1 := rfl
        simp only [List.isEmpty_cons, Bool.false_eq_true, ↓reduceIte, slash]
        omega
    have through : Passable beginning rest →
        ∃ chars, (putSegment field s).bind (putAll beginning alone · rest) = .ok chars ∧
          used chars ≤ used field + width (s :: rest) ∧
          ((field ≠ [] ∨ ∃ t ∈ s :: rest, t ≠ .current) → chars ≠ []) := by
      intro onwards
      have room : used (field ++ suffixOf field s) + width rest ≤ fieldSize + 1 := by omega
      obtain ⟨chars, done, bound, nonempty⟩ := ih room cleanRest filledRest onwards
      refine ⟨chars, ?_, by omega, fun _ => nonempty (Or.inl more)⟩
      rw [putSegment_eq (by omega) cleanFirst]
      exact done
    cases s with
    | root => exact passes.elim
    | current =>
      rw [putAll]
      split
      · exact through passes
      · have room : used field + width rest ≤ fieldSize + 1 := by omega
        obtain ⟨chars, done, bound, nonempty⟩ := ih room cleanRest filledRest passes
        refine ⟨chars, done, by omega, ?_⟩
        rintro (begun | ⟨t, member, other⟩)
        · exact nonempty (Or.inl begun)
        · rcases List.mem_cons.mp member with here | later
          · exact absurd here other
          · exact nonempty (Or.inr ⟨t, later, other⟩)
    | upwards =>
      obtain ⟨cut, last⟩ := passes
      rw [putAll, if_pos (by simp [cut, last])]
      exact through (last ▸ trivial)
    | named name => exact through passes

def segmentsOfLast (last : List Char) : List Segment :=
  if last = [] ∨ last = ['.'] then [] else if last = ['.', '.'] then [.upwards] else [.named last]

theorem segments_eq {path : List Char} {before : List (List Char)} {last : List Char}
    (parts : path.splitOn '/' = before ++ [last]) (plain : ∀ part ∈ before, PlainPart part)
    (starts : before = [] → last ≠ [] ∧ last ≠ ['.']) :
    segments path = before.map .named ++ segmentsOfLast last := by
  have relative : path.head? ≠ some '/' := by
    intro absolute
    obtain ⟨rest, rfl⟩ := List.head?_eq_some_iff.mp absolute
    rw [List.splitOn_cons_eq_if_modifyHead, if_pos (by rfl)] at parts
    cases before with
    | nil => exact (starts rfl).1 (List.cons.inj parts).1.symm
    | cons part more => exact (plain part List.mem_cons_self).1 (List.cons.inj parts).1.symm
  have undotted : (before ++ [last]).head? ≠ some ['.'] := by
    cases before with
    | nil => simpa using (starts rfl).2
    | cons part more => simpa using (plain part List.mem_cons_self).2.1
  have kept : before.filter (fun p => p ≠ [] ∧ p ≠ ['.']) = before :=
    List.filter_eq_self.mpr fun part member =>
      decide_eq_true ⟨(plain part member).1, (plain part member).2.1⟩
  have named : before.map (fun p => if p = ['.', '.'] then Segment.upwards else .named p) =
      before.map .named :=
    List.map_congr_left fun part member => if_neg (plain part member).2.2
  simp only [segments, Text.splitAt_eq_splitOn, parts, relative, undotted, ↓reduceIte,
    List.nil_append, List.filter_append, kept, List.map_append, named]
  congr 1
  unfold segmentsOfLast
  by_cases gone : last = [] ∨ last = ['.']
  · rw [if_pos gone, List.filter_cons_of_neg (by simpa [← or_iff_not_imp_left] using gone)]
    rfl
  · rw [if_neg gone, List.filter_cons_of_pos (by simpa [not_or] using gone)]
    simp only [List.filter_nil, List.map_cons, List.map_nil]
    split
    · rfl
    · rfl

theorem spread_append (a b : List (List Char)) : spread (a ++ b) = spread a + spread b := by
  induction a with
  | nil => exact (Nat.zero_add _).symm
  | cons part rest ih =>
    simp only [List.cons_append, spread]
    omega

theorem spread_splitOn (path : List Char) : spread (path.splitOn '/') = byteSize path + 1 := by
  induction path with
  | nil => rfl
  | cons c rest ih =>
    rw [List.splitOn_cons_eq_if_modifyHead, byteSize]
    split
    · rename_i here
      have slash : c = '/' := by simpa using here
      have one : ('/' : Char).utf8Size = 1 := rfl
      rw [spread, ih, slash, one, byteSize]
      omega
    · cases parts : rest.splitOn '/' with
      | nil => exact absurd parts (List.splitOn_ne_nil _ _)
      | cons part more =>
        rw [parts, spread] at ih
        rw [List.modifyHead_cons, spread, byteSize]
        omega

theorem width_segments {path : List Char} {before : List (List Char)} {last : List Char}
    (parts : path.splitOn '/' = before ++ [last]) :
    width (before.map .named ++ segmentsOfLast last) + (if last = [] then 1 else 0) ≤
      byteSize path + 1 := by
  have total := spread_splitOn path
  have named : (before.map Segment.named).map Segment.chars = before := by
    rw [List.map_map]
    exact List.map_id before
  have bound : spread ((segmentsOfLast last).map Segment.chars) + (if last = [] then 1 else 0) ≤
      byteSize last + 1 := by
    unfold segmentsOfLast
    by_cases none : last = []
    · simp [none, spread, byteSize]
    · simp only [none, false_or, if_false]
      split
      · simp [spread]
      · split
        · rename_i up
          rw [up]
          decide
        · exact Nat.le_refl _
  rw [parts, spread_append, spread, spread] at total
  rw [width, List.map_append, named, spread_append]
  omega

theorem passable_named (beginning : Bool) (before : List (List Char)) (ss : List Segment) :
    Passable beginning (before.map .named ++ ss) ↔ Passable beginning ss := by
  induction before with
  | nil => rfl
  | cons part rest ih => exact ih

theorem passable_segmentsOfLast {beginning : Bool} {last : List Char}
    (ends : last = ['.', '.'] → beginning = true) :
    Passable beginning (segmentsOfLast last) := by
  unfold segmentsOfLast
  split
  · trivial
  · split
    · rename_i up
      exact ⟨ends up, rfl⟩
    · trivial

theorem mem_segmentsOfLast {s : Segment} {last : List Char} (member : s ∈ segmentsOfLast last) :
    s.chars = last ∧ last ≠ [] ∧ s ≠ .current := by
  unfold segmentsOfLast at member
  split at member
  · cases member
  · rename_i kept
    have filled : last ≠ [] := fun none => kept (Or.inl none)
    split at member
    · rename_i up
      rw [List.mem_singleton.mp member, up]
      exact ⟨rfl, by decide, by decide⟩
    · rw [List.mem_singleton.mp member]
      exact ⟨rfl, filled, by simp⟩

theorem segmentsOfLast_ne_nil {last : List Char} (some : last ≠ []) (undotted : last ≠ ['.']) :
    segmentsOfLast last ≠ [] := by
  unfold segmentsOfLast
  rw [if_neg (by simp [some, undotted])]
  split <;> exact List.cons_ne_nil _ _

theorem last_of_trailing {path : List Char} {before : List (List Char)} {last : List Char}
    (parts : path.splitOn '/' = before ++ [last]) (trailing : path.getLast? = some '/') :
    last = [] := by
  obtain ⟨front, rfl⟩ := List.getLast?_eq_some_iff.mp trailing
  have ends := List.splitOn_append_cons_self (a := '/') front []
  rw [parts, List.splitOn_nil] at ends
  exact (List.append_inj_right' ends rfl) |> List.singleton_inj.mp

theorem field_of_putAll {beginning : Bool} {path chars : List Char}
    (done : putAll beginning ((segments path).length = 1) [] (segments path) = .ok chars)
    (there : chars ≠ []) :
    field beginning path = if path.getLast? = some '/' then put chars ['/'] else .ok chars := by
  have filled : chars.isEmpty = false := by simpa using there
  unfold field
  simp only [done]
  change (if chars.isEmpty then _ else _) = _
  rw [filled]
  rfl

/-- A path fits the field if only its last part is more than a plain part, and that not at its
beginning. -/
theorem field_fits (beginning : Bool) {path : List Char} (size : byteSize path ≤ fieldSize)
    (clean : '\x00' ∉ path) {before : List (List Char)} {last : List Char}
    (parts : path.splitOn '/' = before ++ [last]) (plain : ∀ part ∈ before, PlainPart part)
    (starts : before = [] → last ≠ [] ∧ last ≠ ['.'])
    (ends : last = ['.', '.'] → beginning = true) :
    ∃ chars, field beginning path = .ok chars := by
  have segmented := segments_eq parts plain starts
  have narrow := width_segments parts
  have spotless : ∀ part ∈ before ++ [last], '\x00' ∉ part := by
    intro part member nul
    exact clean (Text.mem_splitOn_iff.mp ⟨part, parts ▸ member, nul⟩).1
  have filled : ∀ s ∈ before.map .named ++ segmentsOfLast last, s.chars ≠ [] ∧ s ≠ .current ∧
      '\x00' ∉ s.chars := by
    intro s member
    rcases List.mem_append.mp member with early | late
    · obtain ⟨part, inside, rfl⟩ := List.mem_map.mp early
      exact ⟨(plain part inside).1, by simp, spotless part (List.mem_append_left _ inside)⟩
    · obtain ⟨same, nonempty, other⟩ := mem_segmentsOfLast late
      exact ⟨same ▸ nonempty, other, same ▸ spotless last (by simp)⟩
  have present : ∃ s ∈ before.map .named ++ segmentsOfLast last, s ≠ .current := by
    have nonempty : before.map .named ++ segmentsOfLast last ≠ [] := by
      intro none
      obtain ⟨noneBefore, noneLast⟩ := List.append_eq_nil_iff.mp none
      obtain ⟨some, undotted⟩ := starts (List.map_eq_nil_iff.mp noneBefore)
      exact segmentsOfLast_ne_nil some undotted noneLast
    obtain ⟨s, member⟩ := List.exists_mem_of_ne_nil _ nonempty
    exact ⟨s, member, (filled s member).2.1⟩
  have room : used [] + width (before.map .named ++ segmentsOfLast last) ≤ fieldSize + 1 := by
    have nothing : used [] = 0 := rfl
    omega
  obtain ⟨chars, done, bound, nonempty⟩ := putAll_fits beginning ((segments path).length = 1) room
    (fun s member => (filled s member).2.2) (fun s member => (filled s member).1)
    ((passable_named _ _ _).mpr (passable_segmentsOfLast ends))
  have there : chars ≠ [] := nonempty (Or.inr present)
  rw [← segmented] at done
  by_cases trailing : path.getLast? = some '/'
  · have slashed : put chars ['/'] = .ok (chars ++ ['/']) := by
      refine put_eq ?_ (by decide)
      rw [used, if_neg (by simpa using there)] at bound
      rw [if_pos (last_of_trailing parts trailing)] at narrow
      have slash : byteSize ['/'] = 1 := rfl
      simp only [used] at bound
      simp at bound
      omega
    exact ⟨chars ++ ['/'], by rw [field_of_putAll done there, if_pos trailing, slashed]⟩
  · exact ⟨chars, by rw [field_of_putAll done there, if_neg trailing]⟩

theorem putAll_of_field {beginning : Bool} {path chars : List Char}
    (h : field beginning path = .ok chars) :
    ∃ begun, putAll beginning ((segments path).length = 1) [] (segments path) = .ok begun ∧
      begun ≠ [] := by
  cases done : putAll beginning ((segments path).length = 1) [] (segments path) with
  | error e =>
    unfold field at h
    simp only [done] at h
    cases h
  | ok begun =>
    refine ⟨begun, rfl, fun none => ?_⟩
    unfold field at h
    simp only [done, none] at h
    cases h

theorem field_clean {beginning : Bool} {path chars : List Char}
    (h : field beginning path = .ok chars) :
    '\x00' ∉ path := by
  intro nul
  obtain ⟨part, member, inside⟩ := Text.mem_splitOn_iff.mpr ⟨nul, (by decide : '\x00' ≠ '/')⟩
  obtain ⟨begun, done, _⟩ := putAll_of_field h
  refine putAll_clean done (.named part) ?_ inside
  have some : part ≠ [] := List.ne_nil_of_mem inside
  have undotted : part ≠ ['.'] := by
    rintro rfl
    exact absurd inside (by decide)
  have level : part ≠ ['.', '.'] := by
    rintro rfl
    exact absurd inside (by decide)
  rw [segments, Text.splitAt_eq_splitOn]
  refine List.mem_append_right _ (List.mem_map.mpr ⟨part, ?_, if_neg level⟩)
  exact List.mem_filter.mpr ⟨member, decide_eq_true ⟨some, undotted⟩⟩

theorem field_plain {beginning : Bool} {path chars : List Char}
    (plain : ∀ part ∈ path.splitOn '/', PlainPart part) (h : field beginning path = .ok chars) :
    chars = path := by
  obtain ⟨begun, done, some⟩ := putAll_of_field h
  obtain ⟨before, last, parts⟩ := Text.exists_last_part '/' path
  have lastPlain : PlainPart last := plain last (by simp [parts])
  have level : path.getLast? ≠ Option.some '/' :=
    fun trailing => lastPlain.1 (last_of_trailing parts trailing)
  rw [field_of_putAll done some, if_neg level] at h
  cases h
  have segmented : segments path = (path.splitOn '/').map .named := by
    rw [segments_eq parts (fun part member => plain part (by simp [parts, member]))
      fun _ => ⟨lastPlain.1, lastPlain.2.1⟩, parts, List.map_append, segmentsOfLast,
      if_neg (by simp [lastPlain.1, lastPlain.2.1]), if_neg lastPlain.2.2]
    rfl
  rw [segmented] at done
  have whole : ['/'].intercalate (path.splitOn '/') = path := List.intercalate_splitOn '/'
  cases split : path.splitOn '/' with
  | nil => exact absurd split (List.splitOn_ne_nil _ _)
  | cons part rest =>
    rw [split] at done whole plain
    cases first : putSegment [] (.named part) with
    | error e =>
      simp only [List.map_cons, putAll, first] at done
      cases done
    | ok more =>
      have same : more = part := (putSegment_ok first).1
      simp only [List.map_cons, putAll, first, same] at done
      rw [putAll_named done (plain part List.mem_cons_self).1, ← Text.intercalate_cons, whole]

theorem field_of_short {path : List Char} (plain : ∀ part ∈ path.splitOn '/', PlainPart part)
    (short : byteSize path ≤ fieldSize) (clean : '\x00' ∉ path) :
    ∃ chars, field false path = .ok chars := by
  obtain ⟨before, last, parts⟩ := Text.exists_last_part '/' path
  have lastPlain : PlainPart last := plain last (by simp [parts])
  exact field_fits false short clean parts (fun part member => plain part (by simp [parts, member]))
    (fun _ => ⟨lastPlain.1, lastPlain.2.1⟩) fun up => (lastPlain.2.2 up).elim

/-- The beginning of a long path goes into the header. Only its last part can be cut, and if there
is no other part it is too long to be a cut part of dots. -/
theorem field_of_long {path : List Char} (plain : ∀ part ∈ path.splitOn '/', PlainPart part)
    (long : fieldSize < byteSize path) (clean : '\x00' ∉ beginningWithin fieldSize path) :
    ∃ chars, field true (beginningWithin fieldSize path) = .ok chars := by
  obtain ⟨more, whole⟩ := beginningWithin_isPrefix fieldSize path
  obtain ⟨before, cut, parts⟩ := Text.exists_last_part '/' (beginningWithin fieldSize path)
  have kept : before <+: path.splitOn '/' := by
    have := Text.dropLast_splitOn_isPrefix '/' (beginningWithin fieldSize path) more
    rwa [parts, List.dropLast_concat, whole] at this
  have starts : before = [] → cut ≠ [] ∧ cut ≠ ['.'] := by
    intro single
    have same : ['/'].intercalate ((beginningWithin fieldSize path).splitOn '/') =
        beginningWithin fieldSize path :=
      List.intercalate_splitOn '/'
    rw [parts, single, List.nil_append, List.intercalate_singleton] at same
    have wide := room_lt_of_cut long
    rw [← same] at wide
    constructor
    · rintro rfl
      exact absurd wide (by decide)
    · rintro rfl
      exact absurd wide (by decide)
  exact field_fits true (byteSize_beginningWithin _ _) clean parts (fun part member =>
    plain part (kept.subset member))
    starts fun _ => rfl

theorem stored_plain {path : String} (plain : Plain path) (clean : ¬ NulInHeader path) :
    stored path = .ok path := by
  have parts : ∀ part ∈ path.toList.splitOn '/', PlainPart part := by
    rw [← Text.splitAt_eq_splitOn]
    exact plain
  simp only [stored]
  cases whole : field false path.toList with
  | ok name =>
    dsimp only
    rw [field_plain parts whole, String.ofList_toList]
  | error fault =>
    have long : fieldSize < byteSize path.toList := by
      by_contra small
      have short : byteSize path.toList ≤ fieldSize := Nat.le_of_not_lt small
      rw [NulInHeader, beginningWithin_of_fits short] at clean
      obtain ⟨chars, done⟩ := field_of_short parts short clean
      rw [whole] at done
      cases done
    obtain ⟨chars, done⟩ := field_of_long parts long clean
    simp only [done, if_neg (Nat.not_lt_of_ge (Nat.le_of_lt long))]

theorem stored_of_nul {path : String} (nul : NulInHeader path) :
    ∃ fault, stored path = .error fault := by
  have inside : '\x00' ∈ path.toList := (beginningWithin_isPrefix fieldSize path.toList).subset nul
  simp only [stored]
  cases whole : field false path.toList with
  | ok name => exact absurd inside (field_clean whole)
  | error fault =>
    dsimp only
    split
    · exact ⟨_, rfl⟩
    · cases cut : field true (beginningWithin fieldSize path.toList) with
      | ok name => exact absurd nul (field_clean cut)
      | error fault => exact ⟨_, rfl⟩

end ClusterSurvey.Recording.EntryName
