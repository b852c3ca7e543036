import ClusterSurvey.Bytes.Utf8
import ClusterSurvey.Cluster.Client

/-!
Lines of byte streams, read one after the other. A line ends with a newline, which a carriage return
may precede; bytes behind the last newline are a line as well. A stream comes in pieces, and a line
may go on from one piece to the next.
-/
namespace ClusterSurvey.Log

def newline : UInt8 := 10

def cutLine? (bs : Bytes) : Option (Bytes × Bytes) :=
  (bs.findIdx? (· == newline)).map fun place => (bs.take (place + 1), bs.drop (place + 1))

theorem append_of_cutLine {bs line rest : Bytes} (h : cutLine? bs = some (line, rest)) :
    line ++ rest = bs := by
  obtain ⟨place, _, parts⟩ := Option.map_eq_some_iff.1 h
  cases parts
  exact List.take_append_drop (place + 1) bs

theorem line_of_cutLine {bs line rest : Bytes} (h : cutLine? bs = some (line, rest)) :
    ∃ front, newline ∉ front ∧ line = front ++ [newline] := by
  obtain ⟨place, found, parts⟩ := Option.map_eq_some_iff.1 h
  obtain ⟨inside, here, before⟩ := List.findIdx?_eq_some_iff_getElem.1 found
  cases parts
  refine ⟨bs.take place, ?_, ?_⟩
  · intro member
    obtain ⟨i, short, same⟩ := List.mem_take_iff_getElem.1 member
    exact before i (Nat.lt_of_lt_of_le short (Nat.min_le_left _ _)) (by simp [same])
  · rw [List.take_succ_eq_append_getElem inside, eq_of_beq here]

theorem not_mem_of_cutLine {bs : Bytes} (h : cutLine? bs = none) : newline ∉ bs := by
  intro member
  have other := List.findIdx?_eq_none_iff.1 (Option.map_eq_none_iff.1 h) newline member
  simp at other

theorem length_cutLine {bs line rest : Bytes} (h : cutLine? bs = some (line, rest)) :
    rest.length < bs.length := by
  obtain ⟨front, _, ending⟩ := line_of_cutLine h
  rw [← append_of_cutLine h, ending]
  simp only [List.length_append, List.length_cons]
  omega

/-- A stream that is being read: what is left of the piece at hand, and the pieces that are still to
come. -/
structure Inflow where
  ready : Bytes
  coming : List Bytes

namespace Inflow

def of (pieces : List Bytes) : Inflow := ⟨[], pieces⟩

def content (s : Inflow) : Bytes := s.ready ++ s.coming.flatten

/-- Reads on behind what is in the buffer, up to and including the next newline or to the end of the
stream. -/
def readUntil (buffer ready : Bytes) (coming : List Bytes) : Bytes × Inflow :=
  match cutLine? ready with
  | some (line, rest) => (buffer ++ line, ⟨rest, coming⟩)
  | none =>
    match coming with
    | [] => (buffer ++ ready, ⟨[], []⟩)
    | piece :: coming => readUntil (buffer ++ ready) piece coming

def readLine (s : Inflow) : Bytes × Inflow := readUntil [] s.ready s.coming

theorem readUntil_content (buffer ready : Bytes) (coming : List Bytes) :
    (readUntil buffer ready coming).1 ++ (readUntil buffer ready coming).2.content =
      buffer ++ (ready ++ coming.flatten) := by
  fun_induction readUntil buffer ready coming with
  | case1 coming buffer ready line rest cut =>
    rw [← append_of_cutLine cut]
    simp [content]
  | case2 buffer ready _ => simp [content]
  | case3 buffer ready _ piece coming ih => simpa using ih

theorem readLine_content (s : Inflow) : s.readLine.1 ++ s.readLine.2.content = s.content :=
  readUntil_content [] s.ready s.coming

theorem length_readLine {s rest : Inflow} {b : UInt8} {line : Bytes}
    (h : s.readLine = (b :: line, rest)) :
    rest.content.length < s.content.length := by
  have whole := congrArg List.length s.readLine_content
  simp only [h, List.length_append, List.length_cons] at whole
  omega

end Inflow

def dropEnd (last : UInt8) (line : Bytes) : Bytes :=
  if line.getLast? = some last then line.dropLast else line

/-- The text of a line, without the newline and a carriage return before that. -/
def lineText (line : Bytes) : String := Utf8.textLossy (dropEnd 13 (dropEnd newline line))

end ClusterSurvey.Log
