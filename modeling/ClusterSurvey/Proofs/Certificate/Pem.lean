import ClusterSurvey.Certificate.Pem
import ClusterSurvey.Proofs.Bytes.Groups
import Mathlib.Data.List.Basic
import Mathlib.Data.List.Forall2
import Mathlib.Data.List.Infix

/-!
PEM blocks as a grammar of lines. A part of a text is some lines that open no block and then a
block; the reader of one block takes exactly the first part, whatever follows, so the blocks of a
text are the parts it splits into. The bytes behind a block are cut into the same lines again, which
makes reading from bytes and from lines the same.
-/
namespace ClusterSurvey.Pem

/-- A line of text that does not begin with a mark. -/
def LacksMark (mark : List Char) (l : Bytes) : Prop :=
  ∃ text, Utf8.decode? l = some text ∧ ¬ mark <+: text

/-- A line that opens a block: the label stands between the mark and dashes, and the rest of the
line is free. -/
def Opens (l : Bytes) : Prop :=
  ∃ text label after, Utf8.decode? l = some text ∧ text = beginMark ++ (label ++ dashes ++ after)

def Closes (l : Bytes) : Prop := ∃ text, Utf8.decode? l = some text ∧ endMark <+: text

/-- The texts of lines that close no block. -/
def AreTexts : List Bytes → List (List Char) → Prop :=
  List.Forall₂ fun l text => Utf8.decode? l = some text ∧ ¬ endMark <+: text

/-- The body of a block: its lines without blanks at their ends are padded base64. -/
def IsBody (ls : List Bytes) : Prop :=
  ∃ texts parts, AreTexts ls texts ∧
    Bytes.ofChars (texts.flatMap Text.trimEnd) = Base64.encodeParts parts

/-- Lines that open no block, and a block behind them. -/
def IsPart (ls : List Bytes) : Prop :=
  ∃ skipped opening body closing, ls = skipped ++ opening :: (body ++ [closing]) ∧
    (∀ l ∈ skipped, LacksMark beginMark l) ∧ Opens opening ∧ IsBody body ∧ Closes closing

/-- A byte string whose lines are `n` parts. -/
def SplitsInto (n : Nat) (d : Bytes) : Prop :=
  ∃ parts : List (List Bytes), parts.length = n ∧ parts.flatten = lines d ∧
    ∀ part ∈ parts, IsPart part

/-! Lines of bytes. -/

theorem flatten_lines (d : Bytes) : (lines d).flatten = d := by
  fun_induction lines d with
  | case1 => rfl
  | case2 bs ih => rw [List.flatten_cons, ih, List.singleton_append]
  | case3 b bs other nothing ih =>
    rw [nothing] at ih
    rw [← ih]
    rfl
  | case4 b bs other l ls some ih =>
    rw [some] at ih
    rw [← ih]
    rfl

theorem lines_append (front rest : Bytes) :
    lines (front ++ 10 :: rest) = lines (front ++ [10]) ++ lines rest := by
  induction front with
  | nil => rfl
  | cons b front ih =>
    rw [List.cons_append, List.cons_append, lines, lines, ih]
    split_ifs with newline
    · rfl
    · cases first : lines (front ++ [10]) with
      | nil =>
        have empty := flatten_lines (front ++ [10])
        rw [first] at empty
        simp at empty
      | cons l ls => rfl

theorem lines_suffix {d : Bytes} {front rest : List Bytes} (split : lines d = front ++ rest) :
    lines rest.flatten = rest := by
  have whole : ∀ {d}, lines d = rest → lines rest.flatten = rest := by
    rintro d rfl
    rw [flatten_lines]
  cases front with
  | nil => exact whole split
  | cons first front =>
    fun_induction lines d generalizing first front with
    | case1 => cases split
    | case2 bs ih =>
      obtain ⟨_, behind⟩ := List.cons_eq_cons.mp split
      cases front with
      | nil => exact whole behind
      | cons second front => exact ih second front behind
    | case3 b bs other nothing ih =>
      obtain ⟨_, behind⟩ := List.cons_eq_cons.mp split
      rw [(List.append_eq_nil_iff.mp behind.symm).2]
      rfl
    | case4 b bs other l ls some ih =>
      obtain ⟨_, behind⟩ := List.cons_eq_cons.mp split
      exact ih l front (by rw [some, behind]; rfl)

/-! One block. -/

theorem upTo_eq_some {part cs label : List Char} (found : upTo part cs = some label) :
    ∃ after, cs = label ++ part ++ after := by
  induction cs generalizing label with
  | nil =>
    rw [upTo] at found
    split_ifs at found with here
    obtain ⟨after, whole⟩ := List.isPrefixOf_iff_prefix.mp here
    exact ⟨after, by rw [← Option.some.inj found, List.nil_append, whole]⟩
  | cons c cs ih =>
    rw [upTo] at found
    split_ifs at found with here
    · obtain ⟨after, whole⟩ := List.isPrefixOf_iff_prefix.mp here
      exact ⟨after, by rw [← Option.some.inj found, List.nil_append, whole]⟩
    · obtain ⟨front, later, rfl⟩ := Option.map_eq_some_iff.mp found
      obtain ⟨after, rfl⟩ := ih later
      exact ⟨after, rfl⟩

theorem exists_upTo (part label after : List Char) :
    ∃ front, upTo part (label ++ part ++ after) = some front := by
  induction label with
  | nil =>
    have here : part.isPrefixOf (part ++ after) = true :=
      List.isPrefixOf_iff_prefix.mpr (List.prefix_append _ _)
    rw [List.nil_append]
    cases text : part ++ after with
    | nil => exact ⟨[], by rw [upTo, if_pos (text ▸ here)]⟩
    | cons c cs => exact ⟨[], by rw [upTo, if_pos (text ▸ here)]⟩
  | cons c label ih =>
    obtain ⟨front, found⟩ := ih
    rw [List.cons_append, List.cons_append, upTo, found]
    split_ifs
    · exact ⟨[], rfl⟩
    · exact ⟨c :: front, rfl⟩

theorem opens_iff {l : Bytes} {text : List Char} (decoded : Utf8.decode? l = some text) :
    Opens l ↔ beginMark <+: text ∧ (label? text).isSome = true := by
  constructor
  · rintro ⟨_, label, after, same, rfl⟩
    rw [decoded, Option.some.injEq] at same
    subst same
    obtain ⟨front, found⟩ := exists_upTo dashes label after
    refine ⟨List.prefix_append _ _, ?_⟩
    rw [label?, List.drop_left, found]
    rfl
  · rintro ⟨⟨behind, rfl⟩, some⟩
    obtain ⟨label, found⟩ := Option.isSome_iff_exists.mp some
    rw [label?, List.drop_left] at found
    obtain ⟨front, up, _⟩ := Option.map_eq_some_iff.mp found
    obtain ⟨after, rfl⟩ := upTo_eq_some up
    exact ⟨_, front, after, decoded, rfl⟩

theorem openBlock_append {skipped : List Bytes} {opening : Bytes}
    (lack : ∀ l ∈ skipped, LacksMark beginMark l) (opens : Opens opening) (rest : List Bytes) :
    ∃ label, openBlock (skipped ++ opening :: rest) = some (label, rest) := by
  induction skipped with
  | nil =>
    obtain ⟨text, _, _, decoded, _⟩ := id opens
    obtain ⟨mark, some⟩ := (opens_iff decoded).mp opens
    obtain ⟨label, found⟩ := Option.isSome_iff_exists.mp some
    refine ⟨label, ?_⟩
    rw [List.nil_append, openBlock, decoded]
    simp only [List.isPrefixOf_iff_prefix.mpr mark, ↓reduceIte, found, Option.map_some]
  | cons l skipped ih =>
    obtain ⟨text, decoded, unmarked⟩ := lack l List.mem_cons_self
    have plain : ¬ beginMark.isPrefixOf text = true :=
      fun mark => unmarked (List.isPrefixOf_iff_prefix.mp mark)
    rw [List.cons_append, openBlock, decoded]
    simp only [plain, Bool.false_eq_true, ↓reduceIte]
    exact ih fun l member => lack l (List.mem_cons_of_mem _ member)

theorem split_of_openBlock {ls rest : List Bytes} {label : List Char}
    (opened : openBlock ls = some (label, rest)) :
    ∃ skipped opening, ls = skipped ++ opening :: rest ∧ (∀ l ∈ skipped, LacksMark beginMark l) ∧
      Opens opening := by
  induction ls with
  | nil => cases opened
  | cons l ls ih =>
    rw [openBlock] at opened
    cases decoded : Utf8.decode? l with
    | none =>
      rw [decoded] at opened
      cases opened
    | some text =>
      simp only [decoded] at opened
      split_ifs at opened with mark
      · obtain ⟨_, found, same⟩ := Option.map_eq_some_iff.mp opened
        obtain ⟨rfl, rfl⟩ := Prod.mk.inj same
        refine ⟨[], l, rfl, fun _ member => absurd member List.not_mem_nil, ?_⟩
        exact (opens_iff decoded).mpr ⟨List.isPrefixOf_iff_prefix.mp mark,
          Option.isSome_iff_exists.mpr ⟨_, found⟩⟩
      · obtain ⟨skipped, opening, rfl, lack, opens⟩ := ih opened
        refine ⟨l :: skipped, opening, rfl, List.forall_mem_cons.mpr ⟨?_, lack⟩, opens⟩
        exact ⟨text, decoded, fun front => mark (List.isPrefixOf_iff_prefix.mpr front)⟩

theorem closeBlock_append {body : List Bytes} {texts : List (List Char)} {closing : Bytes}
    (read : AreTexts body texts) (closes : Closes closing) (rest : List Bytes) :
    closeBlock (body ++ closing :: rest) = some (texts.flatMap Text.trimEnd, rest) := by
  induction read with
  | nil =>
    obtain ⟨text, decoded, mark⟩ := closes
    rw [List.nil_append, closeBlock, decoded]
    simp only [List.isPrefixOf_iff_prefix.mpr mark, ↓reduceIte]
    rfl
  | @cons l text body texts first later ih =>
    have plain : ¬ endMark.isPrefixOf text = true :=
      fun mark => first.2 (List.isPrefixOf_iff_prefix.mp mark)
    rw [List.cons_append, closeBlock, first.1]
    simp only [plain, Bool.false_eq_true, ↓reduceIte, ih, Option.map_some, List.flatMap_cons]

theorem split_of_closeBlock {ls rest : List Bytes} {content : List Char}
    (closed : closeBlock ls = some (content, rest)) :
    ∃ body texts closing, ls = body ++ closing :: rest ∧ AreTexts body texts ∧
      content = texts.flatMap Text.trimEnd ∧ Closes closing := by
  induction ls generalizing content with
  | nil => cases closed
  | cons l ls ih =>
    rw [closeBlock] at closed
    cases decoded : Utf8.decode? l with
    | none =>
      rw [decoded] at closed
      cases closed
    | some text =>
      simp only [decoded] at closed
      split_ifs at closed with mark
      · obtain ⟨rfl, rfl⟩ := Prod.mk.inj (Option.some.inj closed)
        exact ⟨[], [], l, rfl, .nil, rfl, text, decoded, List.isPrefixOf_iff_prefix.mp mark⟩
      · obtain ⟨⟨content', rest'⟩, later, same⟩ := Option.map_eq_some_iff.mp closed
        obtain ⟨rfl, rfl⟩ := Prod.mk.inj same
        obtain ⟨body, texts, closing, rfl, read, rfl, closes⟩ := ih later
        have plain : ¬ endMark <+: text := fun front => mark (List.isPrefixOf_iff_prefix.mpr front)
        exact ⟨l :: body, text :: texts, closing, rfl, .cons ⟨decoded, plain⟩ read, rfl, closes⟩

/-- A block is read exactly if a part stands in front, and its lines are those that are used up. -/
theorem readBlock_iff {ls rest : List Bytes} :
    (∃ block, readBlock ls = some (block, rest)) ↔ ∃ part, IsPart part ∧ ls = part ++ rest := by
  constructor
  · rintro ⟨block, read⟩
    simp only [readBlock, Option.bind_eq_bind, Option.bind_eq_some_iff] at read
    obtain ⟨⟨label, inside⟩, opened, ⟨content, behind⟩, closed, contents, decoded, same⟩ := read
    obtain ⟨_, rfl⟩ := Prod.mk.inj (Option.some.inj same)
    obtain ⟨skipped, opening, rfl, lack, opens⟩ := split_of_openBlock opened
    obtain ⟨body, texts, closing, rfl, read, rfl, closes⟩ := split_of_closeBlock closed
    obtain ⟨parts, padded, _⟩ := Base64.decodeGroups_eq_some_iff.mp decoded
    exact ⟨_, ⟨skipped, opening, body, closing, rfl, lack, opens, ⟨texts, parts, read, padded⟩,
      closes⟩, by simp⟩
  · rintro ⟨_, ⟨skipped, opening, body, closing, rfl, lack, opens,
      ⟨texts, parts, read, padded⟩, closes⟩, rfl⟩
    obtain ⟨label, opened⟩ := openBlock_append lack opens (body ++ closing :: rest)
    have closed := closeBlock_append read closes rest
    have decoded := Base64.decodeGroups_eq_some_iff.mpr ⟨parts, padded, rfl⟩
    refine ⟨⟨label, parts.flatten⟩, ?_⟩
    simp only [List.append_assoc, List.cons_append, List.nil_append]
    simp only [readBlock, opened, Option.bind_eq_bind, Option.bind_some, closed, decoded]
    rfl

/-! All blocks. -/

theorem IsPart.ne_nil {part : List Bytes} (h : IsPart part) : part ≠ [] := by
  obtain ⟨skipped, opening, body, closing, rfl, _⟩ := h
  simp

theorem IsPart.flatten_ne_nil {part : List Bytes} (h : IsPart part) : part.flatten ≠ [] := by
  obtain ⟨skipped, opening, body, closing, rfl, _, ⟨text, label, after, decoded, marked⟩, _⟩ := h
  have some : opening ≠ [] := by
    rintro rfl
    rw [← Option.some.inj decoded] at marked
    cases marked
  intro none
  exact some (List.flatten_eq_nil_iff.mp none opening (List.mem_append_right _ List.mem_cons_self))

theorem blocks_eq (ls : List Bytes) :
    blocks? ls = (readBlock ls).bind fun (block, rest) =>
      if rest = [] then some [block] else (blocks? rest).map (block :: ·) := by
  rw [blocks?]
  split
  · rename_i read
    rw [read]
    rfl
  · rename_i read
    rw [read]
    rfl
  · rename_i read
    rw [read]
    rfl

theorem parts_of_blocks {ls : List Bytes} {blocks : List Block} (h : blocks? ls = some blocks) :
    ∃ parts : List (List Bytes), parts ≠ [] ∧ parts.length = blocks.length ∧ parts.flatten = ls ∧
      ∀ part ∈ parts, IsPart part := by
  induction ls using blocks?.induct generalizing blocks with
  | case1 ls none =>
    rw [blocks_eq, none] at h
    cases h
  | case2 ls block last =>
    rw [blocks_eq, last] at h
    cases h
    obtain ⟨part, isPart, rfl⟩ := readBlock_iff.mp ⟨block, last⟩
    exact ⟨[part], List.cons_ne_nil _ _, rfl, rfl, List.forall_mem_singleton.mpr isPart⟩
  | case3 ls block l rest more ih =>
    rw [blocks_eq, more] at h
    obtain ⟨later, behind, rfl⟩ := Option.map_eq_some_iff.mp h
    obtain ⟨part, isPart, rfl⟩ := readBlock_iff.mp ⟨block, more⟩
    obtain ⟨parts, _, count, whole, all⟩ := ih behind
    refine ⟨part :: parts, List.cons_ne_nil _ _, congrArg (· + 1) count, ?_,
      List.forall_mem_cons.mpr ⟨isPart, all⟩⟩
    rw [List.flatten_cons, whole]

theorem blocks_of_parts {parts : List (List Bytes)} (some : parts ≠ [])
    (all : ∀ part ∈ parts, IsPart part) :
    ∃ blocks, blocks? parts.flatten = .some blocks ∧ blocks.length = parts.length := by
  induction parts with
  | nil => exact absurd rfl some
  | cons part parts ih =>
    obtain ⟨isPart, later⟩ := List.forall_mem_cons.mp all
    obtain ⟨block, read⟩ := readBlock_iff.mpr ⟨part, isPart, List.flatten_cons⟩
    rw [blocks_eq, read, Option.bind_some]
    cases parts with
    | nil => exact ⟨[block], rfl, rfl⟩
    | cons next others =>
      obtain ⟨blocks, found, count⟩ := ih (List.cons_ne_nil _ _) later
      have more : (next :: others).flatten ≠ [] := by
        rw [List.flatten_cons]
        exact List.append_ne_nil_of_left_ne_nil (later next List.mem_cons_self).ne_nil _
      refine ⟨block :: blocks, ?_, congrArg (· + 1) count⟩
      dsimp only
      rw [if_neg more, found]
      rfl

theorem splitsInto_iff {n : Nat} {d : Bytes} (some : n ≠ 0) :
    SplitsInto n d ↔ ∃ blocks, blocks? (lines d) = .some blocks ∧ blocks.length = n := by
  constructor
  · rintro ⟨parts, count, whole, all⟩
    have more : parts ≠ [] := by
      rintro rfl
      exact some count.symm
    rw [← whole, ← count]
    exact blocks_of_parts more all
  · rintro ⟨blocks, read, rfl⟩
    obtain ⟨parts, _, count, whole, all⟩ := parts_of_blocks read
    exact ⟨parts, count, whole, all⟩

theorem blocks_ne_nil {ls : List Bytes} {blocks : List Block} (h : blocks? ls = some blocks) :
    blocks.length ≠ 0 := by
  obtain ⟨parts, some, count, _⟩ := parts_of_blocks h
  rw [← count]
  exact fun none => some (List.length_eq_zero_iff.mp none)

theorem readBlock_bytes {d : Bytes} {rest : List Bytes} {block : Block}
    (read : readBlock (lines d) = some (block, rest)) :
    ∃ used left, d = used ++ left ∧ used ≠ [] ∧ lines left = rest := by
  obtain ⟨part, isPart, split⟩ := readBlock_iff.mp ⟨block, read⟩
  refine ⟨part.flatten, rest.flatten, ?_, ?_, lines_suffix split⟩
  · rw [← List.flatten_append, ← split, flatten_lines]
  · exact isPart.flatten_ne_nil

end ClusterSurvey.Pem
