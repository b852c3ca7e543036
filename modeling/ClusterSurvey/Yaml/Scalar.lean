import ClusterSurvey.Bytes.Hex
import ClusterSurvey.Yaml.Cursor

/-!
The texts of YAML scalars: plain, between quotes, and in blocks. Lines of the first two are folded:
a single end of a line becomes a space, of several the first one is dropped.
-/
namespace ClusterSurvey.Yaml

def fold (first more : List Char) : List Char :=
  if first = ['\n'] then (if more.isEmpty then [' '] else more) else first ++ more

/-- Blanks and ends of lines inside a scalar: the blanks if it stays on one line, else the first end
of a line and the others. -/
structure Gap where
  blanks : List Char
  broken : Bool
  first : List Char
  more : List Char

namespace Gap

def none : Gap := ⟨[], false, [], []⟩

def continued : Gap := ⟨[], true, [], []⟩

def text (g : Gap) : List Char := if g.broken then fold g.first g.more else g.blanks

def isEmpty (g : Gap) : Bool := !g.broken && g.blanks.isEmpty

/-- Reads a gap. At the beginning of a line, no tab may stand left of column `least`. -/
def read (least : Nat) : (fuel : Nat) → Gap → Cursor → Option (Gap × Cursor)
  | 0, g, c => some (g, c)
  | fuel + 1, g, c =>
    if isBlank c.current then
      let (blanks, after) := c.takeWhile isBlank
      if g.broken then
        if (blanks.take (least - c.column)).contains '\t' then Option.none
          else read least fuel g after
      else read least fuel { g with blanks := g.blanks ++ blanks } after
    else if isBreak c.current then
      if g.broken then read least fuel { g with more := g.more ++ c.breakText } c.nextLine
      else read least fuel ⟨[], true, c.breakText, []⟩ c.nextLine
    else some (g, c)

end Gap

def hexValue? (ds : List Char) : Option Nat :=
  ds.foldlM (fun n d => (Hex.value? d).map (n * 16 + ·)) 0

def charOf? (n : Nat) : Option Char := if h : n.isValidChar then some (Char.ofNatAux n h) else none

def simpleEscape? (c : Char) : Option Char :=
  match c with
  | '0' => some (Char.ofNat 0)
  | 'a' => some (Char.ofNat 7)
  | 'b' => some (Char.ofNat 8)
  | 't' => some '\t'
  | '\t' => some '\t'
  | 'n' => some '\n'
  | 'v' => some (Char.ofNat 11)
  | 'f' => some (Char.ofNat 12)
  | 'r' => some '\r'
  | 'e' => some (Char.ofNat 27)
  | ' ' => some ' '
  | '"' => some '"'
  | '/' => some '/'
  | '\\' => some '\\'
  | 'N' => some (Char.ofNat 0x85)
  | '_' => some (Char.ofNat 0xA0)
  | 'L' => some (Char.ofNat 0x2028)
  | 'P' => some (Char.ofNat 0x2029)
  | _ => none

def escapeWidth? (c : Char) : Option Nat :=
  if c = 'x' then some 2 else if c = 'u' then some 4 else if c = 'U' then some 8 else none

def readEscape (c : Cursor) : Option (Char × Cursor) :=
  match simpleEscape? (c.peek 1) with
  | some ch => some (ch, c.advance 2)
  | none => do
    let width ← escapeWidth? (c.peek 1)
    let ds := (c.chars.drop 2).take width
    if ds.length ≠ width then none
    let ch ← (hexValue? ds).bind charOf?
    return (ch, c.advance (2 + width))

/-- Reads a scalar between quotes up to the closing quote; `acc` holds what is read, last character
first. -/
def readQuoted (single : Bool) :
    (fuel : Nat) → (acc : List Char) → Cursor → Option (List Char × Cursor)
  | 0, _, _ => none
  | fuel + 1, acc, c =>
    let ch := c.current
    if c.atDocumentMark || ch == endMark then none
    else if single && ch == '\'' && c.peek 1 == '\'' then
      readQuoted single fuel ('\'' :: acc) (c.advance 2)
    else if ch == (if single then '\'' else '"') then some (acc.reverse, c.advance 1)
    else if !single && ch == '\\' then
      if isBreak (c.peek 1) then
        match Gap.read 0 c.size .continued (c.advance 1).nextLine with
        | some (gap, after) => readQuoted single fuel (gap.text.reverse ++ acc) after
        | none => none
      else
        match readEscape c with
        | some (escaped, after) => readQuoted single fuel (escaped :: acc) after
        | none => none
    else if isBlank ch || isBreak ch then
      match Gap.read 0 c.size .none c with
      | some (gap, after) => readQuoted single fuel (gap.text.reverse ++ acc) after
      | none => none
    else readQuoted single fuel (ch :: acc) (c.advance 1)

def quotedScalar (c : Cursor) : Option (String × Cursor) := do
  let (text, after) ← readQuoted (c.current == '\'') c.size [] (c.advance 1)
  return (String.ofList text, after)

def isBracketing (c : Char) : Bool := c == ',' || c == '[' || c == ']' || c == '\x7b' || c == '\x7d'

/-- Reads a plain scalar, inside brackets if `flow`, else only from column `least` on; `gap` was
read behind `acc`. Tells whether the gap behind the scalar ends a line. -/
def readPlain (flow : Bool) (least : Nat) :
    (fuel : Nat) → (acc : List Char) → Gap → Cursor → Option (List Char × Bool × Cursor)
  | 0, _, _, _ => none
  | fuel + 1, acc, gap, c =>
    let ch := c.current
    let next := c.peek 1
    if c.atDocumentMark || ch == endMark || (ch == '#' && !gap.isEmpty) then
      some (acc.reverse, gap.broken, c)
    else if isBlank ch || isBreak ch then
      match Gap.read least c.size .none c with
      | some (gap, after) =>
        if !flow && after.column < least then some (acc.reverse, gap.broken, after)
        else readPlain flow least fuel acc gap after
      | none => none
    else if flow && ch == ':' && (isBracketing next || next == '?') then none
    else if (ch == ':' && isWordEnd next) || (flow && isBracketing ch) then
      some (acc.reverse, gap.broken, c)
    else readPlain flow least fuel (ch :: gap.text.reverse ++ acc) .none (c.advance 1)

def plainScalar (flow : Bool) (least : Nat) (c : Cursor) : Option (String × Bool × Cursor) := do
  let (text, broken, after) ← readPlain flow least (2 * c.size + 1) [] .none c
  return (String.ofList text, broken, after)

inductive Chomp where
  | strip
  | clip
  | keep
  deriving DecidableEq

def chomp? (c : Char) : Option Chomp :=
  if c = '+' then some .keep else if c = '-' then some .strip else none

def readIndent (c : Cursor) : Option (Nat × Cursor) :=
  if c.current = '0' then none
  else if c.current.isDigit then some (c.current.toNat - '0'.toNat, c.advance 1)
  else some (0, c)

def readSigns (c : Cursor) : Option (Chomp × Nat × Cursor) :=
  match chomp? c.current with
  | some chomp => (readIndent (c.advance 1)).map fun (n, c) => (chomp, n, c)
  | none => (readIndent c).map fun (n, c) =>
    match chomp? c.current with
    | some chomp => (chomp, n, c.advance 1)
    | none => (.clip, n, c)

def readHeader (c : Cursor) : Option (Chomp × Nat × Cursor) := do
  let (chomp, indent, c) ← readSigns c
  let c ← c.blankLine?
  return (chomp, indent, c.nextLine)

/-- Reads blank lines of a block. While the indentation is unknown (0), `widest` is the most seen so
far. -/
def readBlankLines (indent : Nat) :
    (fuel : Nat) → (widest : Nat) → (breaks : List Char) → Cursor → Option
    (Nat × List Char × Cursor)
  | 0, _, _, _ => none
  | fuel + 1, widest, breaks, c =>
    let spaces := (c.chars.takeWhile (· == ' ')).length
    let c := c.advance (if indent = 0 then spaces else min spaces (indent - c.column))
    let widest := max widest c.column
    if (indent = 0 ∨ c.column < indent) ∧ c.current = '\t' then none
    else if isBreak c.current then
      readBlankLines indent fuel widest (breaks ++ c.breakText) c.nextLine
    else some (widest, breaks, c)

/-- Reads the lines of a block; `acc` holds what is read, last character first, `first` the end of
the line before and `more` the blank lines after it. -/
def readBlockLines (literal : Bool) (indent : Nat) : (fuel : Nat) → (acc first more : List Char) →
    (blankBefore : Bool) → Cursor → Option (List Char × List Char × List Char × Cursor)
  | 0, _, _, _, _, _ => none
  | fuel + 1, acc, first, more, blankBefore, c =>
    if c.column ≠ indent ∨ c.current = endMark then some (acc, first, more, c)
    else
      let blank := isBlank c.current
      let joint :=
        if !literal && first == ['\n'] && !blankBefore && !blank then
          (if more.isEmpty then [' '] else more)
        else first ++ more
      let (line, c) := c.takeWhile (fun ch => !isLineEnd ch)
      match readBlankLines indent (c.size + 1) 0 [] c.nextLine with
      | some (_, breaks, after) =>
        readBlockLines literal indent fuel
          (line.reverse ++ (joint.reverse ++ acc)) c.breakText breaks blank after
      | none => none

def blockScalar (parent : Int) (c : Cursor) : Option (String × Cursor) := do
  let literal := c.current == '|'
  let (chomp, increment, c) ← readHeader (c.advance 1)
  let known := if increment = 0 then 0 else (max parent 0).toNat + increment
  let (widest, breaks, c) ← readBlankLines known (c.size + 1) 0 [] c
  let indent := if known = 0 then max widest (max (parent + 1).toNat 1) else known
  let (acc, first, more, c) ← readBlockLines literal indent (c.size + 1) [] [] breaks false c
  let ending := match chomp with
    | .strip => []
    | .clip => first
    | .keep => first ++ more
  return (String.ofList (acc.reverse ++ ending), c)

end ClusterSurvey.Yaml
