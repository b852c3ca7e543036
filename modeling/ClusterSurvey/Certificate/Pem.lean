import ClusterSurvey.Bytes.Base64
import ClusterSurvey.Bytes.Utf8
import ClusterSurvey.Text.Blank

/-!
PEM framing. A block is a `BEGIN` line with a label, lines of base64 whose blanks at the end do not
count, and an `END` line; lines in front of a block are skipped. All lines that are read are UTF-8
text. Each block read leaves fewer lines, so a text has finitely many blocks.
-/
namespace ClusterSurvey.Pem

structure Block where
  label : List Char
  contents : Bytes
  deriving DecidableEq

def lines : Bytes → List Bytes
  | [] => []
  | b :: bs =>
    if b = 10 then [b] :: lines bs
    else
      match lines bs with
      | [] => [[b]]
      | l :: ls => (b :: l) :: ls

def beginMark : List Char := "-----BEGIN ".toList

def endMark : List Char := "-----END ".toList

def dashes : List Char := "-----".toList

def upTo (part : List Char) : List Char → Option (List Char)
  | [] => if part.isPrefixOf [] then some [] else none
  | c :: cs => if part.isPrefixOf (c :: cs) then some [] else (upTo part cs).map (c :: ·)

def label? (line : List Char) : Option (List Char) :=
  (upTo dashes (line.drop beginMark.length)).map (·.takeWhile (· ≠ '-'))

def openBlock : List Bytes → Option (List Char × List Bytes)
  | [] => none
  | l :: ls =>
    match Utf8.decode? l with
    | none => none
    | some line =>
      if beginMark.isPrefixOf line then (label? line).map (·, ls) else openBlock ls

/-- The body of an open block, without blanks at the end of lines, and the lines after its closing
line. -/
def closeBlock : List Bytes → Option (List Char × List Bytes)
  | [] => none
  | l :: ls =>
    match Utf8.decode? l with
    | none => none
    | some line =>
      if endMark.isPrefixOf line then some ([], ls)
      else (closeBlock ls).map fun (body, rest) => (Text.trimEnd line ++ body, rest)

/-- The first block of some lines and the lines after it. -/
def readBlock (ls : List Bytes) : Option (Block × List Bytes) := do
  let (label, ls) ← openBlock ls
  let (body, ls) ← closeBlock ls
  let contents ← Base64.decodeGroups? (Bytes.ofChars body)
  return ({ label, contents }, ls)

theorem length_openBlock {ls rest : List Bytes} {label : List Char}
    (h : openBlock ls = some (label, rest)) : rest.length < ls.length := by
  induction ls with
  | nil => simp [openBlock] at h
  | cons l ls ih =>
    simp only [openBlock] at h
    split at h
    · simp at h
    · split at h
      · obtain ⟨_, _, hr⟩ := Option.map_eq_some_iff.1 h
        cases hr
        simp
      · exact Nat.lt_succ_of_lt (ih h)

theorem length_closeBlock {ls rest : List Bytes} {body : List Char}
    (h : closeBlock ls = some (body, rest)) : rest.length < ls.length := by
  induction ls generalizing body with
  | nil => simp [closeBlock] at h
  | cons l ls ih =>
    simp only [closeBlock] at h
    split at h
    · simp at h
    · split at h
      · cases h
        simp
      · obtain ⟨⟨b, r⟩, hb, hr⟩ := Option.map_eq_some_iff.1 h
        cases hr
        exact Nat.lt_succ_of_lt (ih hb)

theorem length_readBlock {ls rest : List Bytes} {block : Block}
    (h : readBlock ls = some (block, rest)) : rest.length < ls.length := by
  simp only [readBlock, Option.bind_eq_bind, Option.bind_eq_some_iff] at h
  obtain ⟨⟨label, r⟩, ho, ⟨body, s⟩, hc, contents, _, he⟩ := h
  cases he
  exact Nat.lt_trans (length_closeBlock hc) (length_openBlock ho)

/-- The blocks of lines that end with a block; nothing if a part of them is no block. -/
def blocks? (ls : List Bytes) : Option (List Block) :=
  match _h : readBlock ls with
  | none => none
  | some (block, []) => some [block]
  | some (block, l :: rest) => (blocks? (l :: rest)).map (block :: ·)
termination_by ls.length
decreasing_by exact length_readBlock _h

def firstBlock? (bs : Bytes) : Option Block := (readBlock (lines bs)).map (·.1)

end ClusterSurvey.Pem
