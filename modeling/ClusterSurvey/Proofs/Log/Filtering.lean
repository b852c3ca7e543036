import ClusterSurvey.Log.Filter
import ClusterSurvey.Proofs.Text.Split
import Mathlib.Data.List.Basic
import Mathlib.Data.List.Infix

/-!
Filtered logs against the whole text at once. Each line that is read is the next part of the bytes
that were not read before, wherever the pieces of the stream end: in a line, between the two bytes
that end one, or in a character. A stream that is read to its end therefore leaves the parts of all
its bytes, and the filter keeps those of them that it asks for.
-/
namespace ClusterSurvey.Log

/-- The parts between newlines; an empty part behind the last newline is none. -/
def partsOf (bs : Bytes) : List Bytes :=
  let parts := bs.splitOn newline
  if parts.getLast? = some [] then parts.dropLast else parts

/-- The text of a part, without a carriage return at its end. -/
def partText (part : Bytes) : String := Utf8.textLossy (dropEnd 13 part)

namespace Filter

def pattern? (f : Filter) : Option Pattern := Pattern.ofString? ("|".intercalate f.messages)

/-- A filter whose patterns, if it has any, make up one. -/
def Valid (f : Filter) : Prop := f.messages ≠ [] → f.isRegex = true → f.pattern?.isSome = true

/-- What lines a filter asks for: all without messages, else those that its pattern matches or that
have a message in them, where case makes no difference. -/
def Keeps (f : Filter) (line : String) : Prop :=
  f.messages = [] ∨
    if f.isRegex = true then ∃ p ∈ f.pattern?, p.isMatch line = true
    else ∃ m ∈ f.messages, Text.lower m.toList <:+: Text.lower line.toList

instance (f : Filter) (line : String) : Decidable (f.Keeps line) :=
  inferInstanceAs (Decidable (f.messages = [] ∨
    if f.isRegex = true then ∃ p ∈ f.pattern?, p.isMatch line = true
    else ∃ m ∈ f.messages, Text.lower m.toList <:+: Text.lower line.toList))

/-- The kept lines of a text, joined by newlines after `arrange` was applied to them. -/
def reference (f : Filter) (arrange : List String → List String) (text : Bytes) : String :=
  "\n".intercalate (arrange (((partsOf text).map partText).filter fun line => f.Keeps line))

end Filter

/-- What a buffer of `size + 1` bytes hands on of a piece. -/
def fills (size : Nat) : Bytes → List Bytes
  | [] => []
  | b :: bs => (b :: bs.take size) :: fills size (bs.drop size)
termination_by bs => bs.length
decreasing_by
  simp only [List.length_drop, List.length_cons]
  omega

/-! The parts of a text. -/

theorem partsOf_nil : partsOf [] = [] := rfl

theorem partsOf_of_not_mem {bs : Bytes} (none : newline ∉ bs) (some : bs ≠ []) :
    partsOf bs = [bs] := by
  rw [partsOf, List.splitOn_eq_singleton none]
  simp [some]

theorem partsOf_line {front : Bytes} (none : newline ∉ front) (rest : Bytes) :
    partsOf (front ++ newline :: rest) = front :: partsOf rest := by
  have more := List.splitOn_ne_nil newline rest
  rw [partsOf, partsOf, List.splitOn_append_cons_self_of_not_mem none]
  simp only [List.getLast?_cons, List.dropLast_cons_of_ne_nil more]
  cases last : (rest.splitOn newline).getLast? with
  | none => exact absurd (List.getLast?_eq_none_iff.mp last) more
  | some part => simp only [Option.getD_some, apply_ite (front :: ·)]

theorem dropEnd_append (last : UInt8) (front : Bytes) : dropEnd last (front ++ [last]) = front := by
  simp [dropEnd]

theorem dropEnd_of_not_mem {last : UInt8} {line : Bytes} (none : last ∉ line) :
    dropEnd last line = line := by
  rw [dropEnd, if_neg]
  exact fun ending => none (List.mem_of_getLast? ending)

/-! One line after the other. -/

theorem readUntil_line {buffer : Bytes} (none : newline ∉ buffer) (ready : Bytes)
    (coming : List Bytes) :
    (∃ front, newline ∉ front ∧ (Inflow.readUntil buffer ready coming).1 = front ++ [newline]) ∨
      newline ∉ (Inflow.readUntil buffer ready coming).1 ∧
        (Inflow.readUntil buffer ready coming).2.content = [] := by
  fun_induction Inflow.readUntil buffer ready coming with
  | case1 coming buffer ready line rest cut =>
    obtain ⟨front, clean, rfl⟩ := line_of_cutLine cut
    refine Or.inl ⟨buffer ++ front, ?_, (List.append_assoc _ _ _).symm⟩
    simp [none, clean]
  | case2 buffer ready cut =>
    have clean := not_mem_of_cutLine cut
    exact Or.inr ⟨by simp [none, clean], rfl⟩
  | case3 buffer ready cut piece coming ih =>
    have clean := not_mem_of_cutLine cut
    exact ih (by simp [none, clean])

theorem Inflow.readLine_line (s : Inflow) :
    (∃ front, newline ∉ front ∧ s.readLine.1 = front ++ [newline]) ∨
      newline ∉ s.readLine.1 ∧ s.readLine.2.content = [] :=
  readUntil_line List.not_mem_nil s.ready s.coming

theorem content_of_readLine_nil {s rest : Inflow} (nothing : s.readLine = ([], rest)) :
    s.content = [] := by
  have whole := s.readLine_content
  have ending := s.readLine_line
  rw [nothing] at whole ending
  rcases ending with ⟨front, _, line⟩ | ⟨_, empty⟩
  · exact absurd line.symm (List.append_ne_nil_of_right_ne_nil front (List.cons_ne_nil _ _))
  · rw [← whole, empty, List.append_nil]

theorem parts_of_readLine {s rest : Inflow} {b : UInt8} {line : Bytes}
    (read : s.readLine = (b :: line, rest)) :
    ∃ part, partsOf s.content = part :: partsOf rest.content ∧
      lineText (b :: line) = partText part := by
  have whole := s.readLine_content
  have ending := s.readLine_line
  rw [read] at whole ending
  dsimp only at whole ending
  rcases ending with ⟨front, clean, ended⟩ | ⟨clean, empty⟩
  · refine ⟨front, ?_, ?_⟩
    · rw [← whole, ended, List.append_assoc]
      exact partsOf_line clean rest.content
    · rw [lineText, ended, dropEnd_append, partText]
  · refine ⟨b :: line, ?_, ?_⟩
    · rw [← whole, empty, List.append_nil, partsOf_nil]
      exact partsOf_of_not_mem clean (List.cons_ne_nil b line)
    · rw [lineText, dropEnd_of_not_mem clean, partText]

theorem keepLines_eq (m : Matcher) (kept : List String) (s : Inflow) :
    keepLines m kept s = kept.reverse ++ ((partsOf s.content).map partText).filter m.keeps := by
  fun_induction keepLines m kept s with
  | case1 kept s rest nothing => simp [content_of_readLine_nil nothing, partsOf_nil]
  | case2 kept s b line rest read text ih =>
    obtain ⟨part, parts, same⟩ := parts_of_readLine read
    simp only [dite_eq_ite] at ih
    rw [ih, parts, List.map_cons, ← same, List.filter_cons]
    split
    · simp [text]
    · rfl

/-! What a filter asks for. -/

theorem matcher_of_valid {f : Filter} (valid : f.Valid) :
    ∃ m, f.matcher = .ok m ∧ ∀ line, m.keeps line = decide (f.Keeps line) := by
  by_cases all : f.messages = []
  · refine ⟨.all, by simp [Filter.matcher, all], fun line => ?_⟩
    simp [Matcher.keeps, Filter.Keeps, all]
  · by_cases regex : f.isRegex = true
    · obtain ⟨p, made⟩ := Option.isSome_iff_exists.mp (valid all regex)
      refine ⟨.pattern p, ?_, fun line => ?_⟩
      · rw [Filter.pattern?] at made
        simp [Filter.matcher, all, regex, made]
      · simp [Matcher.keeps, Filter.Keeps, all, regex, made]
    · refine ⟨.substrings (f.messages.map fun m => Text.lower m.toList), ?_, fun line => ?_⟩
      · simp [Filter.matcher, all, regex]
      · rw [Bool.eq_iff_iff]
        simp [Matcher.keeps, Filter.Keeps, all, regex, Text.occursIn_iff]

theorem filterLog_pieces {f : Filter} (valid : f.Valid) (arrange : List String → List String)
    (pieces : List Bytes) :
    filterLog ⟨pieces, none⟩ f arrange false = .ok (f.reference arrange pieces.flatten) := by
  obtain ⟨m, made, keeps⟩ := matcher_of_valid valid
  have content : (Inflow.of pieces).content = pieces.flatten := rfl
  have same : m.keeps = fun line => decide (f.Keeps line) := funext keeps
  rw [filterLog, made]
  simp only [Bind.bind, Except.bind, pure, Except.pure, Bool.false_eq_true, ↓reduceIte]
  rw [keepLines_eq, content, same, List.reverse_nil, List.nil_append, Filter.reference]

theorem flatten_fills (size : Nat) (piece : Bytes) : (fills size piece).flatten = piece := by
  fun_induction fills size piece with
  | case1 => rfl
  | case2 b bs ih => rw [List.flatten_cons, ih, List.cons_append, List.take_append_drop]

/-- The filtered log of a stream is that of its bytes, in whatever pieces they come, and the size of
the buffer through which they are read makes no difference either. -/
theorem filterLog_eq_reference {f : Filter} (valid : f.Valid)
    (arrange : List String → List String) {bytes : Bytes} {pieces : List Bytes}
    (whole : pieces.flatten = bytes) :
    filterLog ⟨pieces, none⟩ f arrange false = .ok (f.reference arrange bytes) ∧
      ∀ size, filterLog ⟨pieces.flatMap (fills size), none⟩ f arrange false =
        .ok (f.reference arrange bytes) := by
  subst whole
  refine ⟨filterLog_pieces valid arrange pieces, fun size => ?_⟩
  have same : (pieces.flatMap (fills size)).flatten = pieces.flatten := by
    induction pieces with
    | nil => rfl
    | cons piece pieces ih =>
        rw [List.flatMap_cons, List.flatten_append, flatten_fills, ih, List.flatten_cons]
  rw [filterLog_pieces valid, same]

def twoLines : List Bytes := [[69, 114, 114, 111, 114, 32, 195], [169, 13], [10, 111, 107]]

theorem twoLines_filtered :
    (Filter.substrings ["É"]).Valid ∧ twoLines.flatten =
    [69, 114, 114, 111, 114, 32, 195, 169, 13, 10, 111, 107] ∧
      filterLog ⟨twoLines, none⟩ (.substrings ["É"]) id false = .ok "Error é" := by
  have valid : (Filter.substrings ["É"]).Valid := fun _ regex => absurd regex (by decide)
  have told : (Filter.substrings ["É"]).reference id twoLines.flatten =
      "Error é" := by decide +kernel
  refine ⟨valid, rfl, ?_⟩
  rw [← told]
  exact (filterLog_eq_reference valid id rfl).1

end ClusterSurvey.Log
