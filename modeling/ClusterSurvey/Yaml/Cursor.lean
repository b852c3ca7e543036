/-!
A place in a YAML text: the characters that are left, and how many characters and lines were passed.
The end of the text reads as NUL, which no text may hold.
-/
namespace ClusterSurvey.Yaml

def isAllowed (c : Char) : Bool :=
  let n := c.toNat
  n == 0x09 || n == 0x0A || n == 0x0D || (0x20 ≤ n && n ≤ 0x7E) || n == 0x85
    || (0xA0 ≤ n && n ≤ 0xD7FF)
    || (0xE000 ≤ n && n ≤ 0xFFFD) || 0x10000 ≤ n

def endMark : Char := Char.ofNat 0

def isBlank (c : Char) : Bool := c == ' ' || c == '\t'

def isBreak (c : Char) : Bool :=
  c == '\n' || c == '\r' || c.toNat == 0x85 || c.toNat == 0x2028 || c.toNat == 0x2029

def isLineEnd (c : Char) : Bool := isBreak c || c == endMark

def isWordEnd (c : Char) : Bool := isBlank c || isLineEnd c

def isWordChar (c : Char) : Bool := c.isAlphanum || c == '_' || c == '-'

/-- A place in a text. No step forward changes `size`, the number of characters of the whole text,
so it bounds whatever goes on from the place. -/
structure Cursor where
  chars : List Char
  size : Nat
  index : Nat
  line : Nat
  column : Nat

namespace Cursor

def ofChars (cs : List Char) : Cursor := ⟨cs, cs.length, 0, 0, 0⟩

def peek (c : Cursor) (n : Nat) : Char := c.chars.getD n endMark

def current (c : Cursor) : Char := c.peek 0

def advance (n : Nat) (c : Cursor) : Cursor :=
  { c with chars := c.chars.drop n, index := c.index + n, column := c.column + n }

def endLine (n : Nat) (c : Cursor) : Cursor :=
  { c with chars := c.chars.drop n, index := c.index + n, line := c.line + 1, column := 0 }

def nextLine (c : Cursor) : Cursor :=
  if c.current = '\r' ∧ c.peek 1 = '\n' then c.endLine 2
  else if isBreak c.current then c.endLine 1
  else c

/-- What the end of a line at the cursor adds to a scalar: the separators of Unicode stay, all
others are written as a newline. -/
def breakText (c : Cursor) : List Char :=
  if c.current.toNat = 0x2028 ∨ c.current.toNat = 0x2029 then [c.current]
  else if isBreak c.current then ['\n']
  else []

def takeWhile (p : Char → Bool) (c : Cursor) : List Char × Cursor :=
  let taken := c.chars.takeWhile p
  (taken, c.advance taken.length)

def dropWhile (p : Char → Bool) (c : Cursor) : Cursor := (c.takeWhile p).2

def blankLine? (c : Cursor) : Option Cursor :=
  let c := c.dropWhile isBlank
  let c := if c.current = '#' then c.dropWhile (fun ch => !isLineEnd ch) else c
  if isLineEnd c.current then some c else none

def atWord (c : Cursor) (word : List Char) : Bool :=
  c.column == 0 && c.chars.take 3 == word && isWordEnd (c.peek 3)

def atDocumentMark (c : Cursor) : Bool := c.atWord ['-', '-', '-'] || c.atWord ['.', '.', '.']

end Cursor

end ClusterSurvey.Yaml
