import ClusterSurvey.Log.Lines

/-!
A reader that passes on the first lines of another one and counts the newlines of all it takes from
it, also of the bytes it drops.
-/
namespace ClusterSurvey.Log

/-- A source of bytes: those that are left, and how many bytes each of the next reads may give at
most. Without an entry a read gives as many as are asked for. -/
structure Source where
  data : Bytes
  limits : List Nat

namespace Source

def read (capacity : Nat) (s : Source) : Bytes × Source :=
  let n := match s.limits with
    | limit :: _ => min capacity limit
    | [] => capacity
  (s.data.take n, ⟨s.data.drop n, s.limits.drop 1⟩)

theorem read_data (capacity : Nat) (s : Source) :
    (s.read capacity).1 ++ (s.read capacity).2.data = s.data := by
  simp [read]

theorem length_read {capacity : Nat} {s rest : Source} {b : UInt8} {chunk : Bytes}
    (h : s.read capacity = (b :: chunk, rest)) : rest.data.length < s.data.length := by
  have whole := congrArg List.length (s.read_data capacity)
  simp only [h, List.length_append, List.length_cons] at whole
  omega

end Source

def newlines (bs : Bytes) : Nat := bs.count newline

/-- Passes over lines of a chunk, of which `rest` stands behind `offset`, until none is `remaining`:
the place behind the last newline, or the end of the chunk, and how many remain. -/
def passLines (offset : Nat) (rest : Bytes) (remaining : Nat) : Nat × Nat :=
  match _h : cutLine? rest with
  | none => (offset + rest.length, remaining)
  | some (line, rest) =>
    if remaining - 1 = 0 then (offset + line.length, 0)
    else passLines (offset + line.length) rest (remaining - 1)
termination_by rest.length
decreasing_by exact length_cutLine _h

structure LineLimit where
  source : Source
  remaining : Nat
  total : Nat

namespace LineLimit

def of (source : Source) (lines : Nat) : LineLimit := ⟨source, lines, 0⟩

def read (capacity : Nat) (r : LineLimit) : Bytes × LineLimit :=
  if r.remaining = 0 then ([], r)
  else
    let (chunk, source) := r.source.read capacity
    let (length, remaining) := passLines 0 chunk r.remaining
    (chunk.take length, ⟨source, remaining, r.total + newlines chunk⟩)

theorem length_read {capacity : Nat} {r rest : LineLimit} {b : UInt8} {piece : Bytes}
    (h : r.read capacity = (b :: piece, rest)) :
    rest.source.data.length < r.source.data.length := by
  rw [read] at h
  split at h
  · cases h
  · cases chunk : r.source.read capacity with
    | mk bytes source =>
      rw [chunk] at h
      obtain ⟨piece, same⟩ := Prod.mk.inj h
      cases bytes with
      | nil => simp at piece
      | cons first bytes =>
        rw [← same]
        exact Source.length_read chunk

end LineLimit

def countSize : Nat := 0x8000

def countFrom (lines : Nat) (s : Source) : Nat :=
  match _h : s.read countSize with
  | ([], _) => lines
  | (b :: chunk, rest) => countFrom (lines + newlines (b :: chunk)) rest
termination_by s.data.length
decreasing_by exact Source.length_read _h

/-- The number of lines that are left in a source; bytes without a newline are one line. -/
def countLines (s : Source) : Nat := countFrom 1 s

end ClusterSurvey.Log
