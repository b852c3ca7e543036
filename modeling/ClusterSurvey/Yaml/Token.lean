import ClusterSurvey.Bytes.Basic
import ClusterSurvey.Yaml.Scalar

/-!
The tokens of a YAML text. Indentation is turned into tokens that open and close blocks. A mapping
key is recognised late, by the colon behind it, so the scanner remembers for each level of brackets
the place where a key may have begun and puts the token of the key there.
-/
namespace ClusterSurvey.Yaml

inductive Token where
  | version (major minor : Nat)
  | tagDirective (handle : String) (stem : Bytes)
  | documentStart
  | documentEnd
  | blockSequence
  | blockMapping
  | blockEnd
  | flowSequence
  | flowSequenceEnd
  | flowMapping
  | flowMappingEnd
  | blockEntry
  | flowEntry
  | key
  | value
  | alias (name : String)
  | anchor (name : String)
  | tag (handle : String) (suffix : Bytes)
  | scalar (plain : Bool) (text : String)
  deriving DecidableEq

/-- A place where a mapping key may have begun: the number of tokens before it and where it stands.
In a block whose column is that of the key it must turn out to be one. -/
structure KeyPlace where
  required : Bool
  number : Nat
  index : Nat
  line : Nat
  column : Nat

/-- The scanner: the tokens so far, for each level of brackets the place of a possible key (the
innermost level first), the number of open brackets, and the columns of the open blocks. -/
structure Scanner where
  cursor : Cursor
  tokens : Array Token
  keys : List (Option KeyPlace)
  flow : Nat
  indent : Int
  outer : List Int
  keyAllowed : Bool

namespace Scanner

def start (cs : List Char) : Scanner := ⟨.ofChars cs, #[], [none], 0, -1, [], true⟩

def push (t : Token) (s : Scanner) : Scanner := { s with tokens := s.tokens.push t }

def advance (n : Nat) (s : Scanner) : Scanner := { s with cursor := s.cursor.advance n }

def insertAt (n : Nat) (t : Token) (s : Scanner) : Scanner :=
  { s with tokens := s.tokens.insertIdxIfInBounds n t }

def dropKey (s : Scanner) : Option Scanner :=
  match s.keys with
  | some key :: rest => if key.required then none else some { s with keys := none :: rest }
  | _ => some s

def saveKey (s : Scanner) : Option Scanner :=
  if s.keyAllowed then do
    let s ← s.dropKey
    let c := s.cursor
    let place : KeyPlace :=
      ⟨s.flow = 0 ∧ s.indent = c.column, s.tokens.size, c.index, c.line, c.column⟩
    return { s with keys := some place :: s.keys.drop 1 }
  else some s

def dropStaleKeys (s : Scanner) : Option Scanner := do
  let keys ← s.keys.mapM fun key =>
    match key with
    | some place =>
      if place.line < s.cursor.line ∨ place.index + 1024 < s.cursor.index then
        if place.required then none else some none
      else some (some place)
    | none => some none
  return { s with keys }

/-- Opens a block at a column right of the current one; its token goes to a recorded place, or to
the end. -/
def openBlock (column : Nat) (place : Option Nat) (t : Token) (s : Scanner) : Scanner :=
  if s.flow = 0 ∧ s.indent < column then
    let s := { s with outer := s.indent :: s.outer, indent := column }
    match place with
    | some n => s.insertAt n t
    | none => s.push t
  else s

def closeFrom (column : Int) : List Int → Scanner → Scanner
  | [], s => s
  | parent :: outer, s =>
    if column < s.indent then
      closeFrom column outer { s.push .blockEnd with indent := parent, outer } else s

def closeBlocks (column : Int) (s : Scanner) : Scanner :=
  if s.flow = 0 then closeFrom column s.outer s else s

/-- Passes blanks, comments and ends of lines. Outside of brackets a tab may not stand where a key
could, and a key may begin on a new line. -/
def skipBlanks : (fuel : Nat) → Scanner → Scanner
  | 0, s => s
  | fuel + 1, s =>
    let c :=
      if s.cursor.index = 0 ∧ s.cursor.current.toNat = 0xFEFF then s.cursor.advance 1 else s.cursor
    let tabs := decide (0 < s.flow) || !s.keyAllowed
    let c := c.dropWhile fun ch => ch == ' ' || (tabs && ch == '\t')
    let c := if c.current = '#' then c.dropWhile (fun ch => !isLineEnd ch) else c
    if isBreak c.current then
      skipBlanks fuel { s with cursor := c.nextLine, keyAllowed := s.keyAllowed || s.flow == 0 }
    else { s with cursor := c }

end Scanner

def readVersionNumber (c : Cursor) : Option (Nat × Cursor) :=
  let (ds, after) := c.takeWhile Char.isDigit
  if ds.isEmpty ∨ 9 < ds.length then none
  else some (ds.foldl (fun n d => n * 10 + (d.toNat - '0'.toNat)) 0, after)

def readHandle (directive : Bool) (c : Cursor) : Option (List Char × Cursor) := do
  if c.current ≠ '!' then none
  let (word, after) := (c.advance 1).takeWhile isWordChar
  if after.current = '!' then return ('!' :: word ++ ['!'], after.advance 1)
  if directive ∧ word ≠ [] then none
  return ('!' :: word, after)

/-- A character of a tag. A verbatim tag may hold commas and square brackets. -/
def isTagChar (verbatim : Bool) (c : Char) : Bool :=
  isWordChar c || ";/?:@&=+$.!~*'()%".toList.contains c
    || (verbatim && (c == ',' || c == '[' || c == ']'))

def readPercentByte (c : Cursor) : Option (UInt8 × Cursor) := do
  if c.current ≠ '%' then none
  let n ← hexValue? [c.peek 1, c.peek 2]
  return (UInt8.ofNat n, c.advance 3)

def readContinuations : (count : Nat) → Cursor → Option (Bytes × Cursor)
  | 0, c => some ([], c)
  | count + 1, c => do
    let (b, c) ← readPercentByte c
    if b &&& 0xC0 ≠ 0x80 then none
    let (bs, c) ← readContinuations count c
    return (b :: bs, c)

def readPercentChar (c : Cursor) : Option (Bytes × Cursor) := do
  let (b, c) ← readPercentByte c
  let more ← if b &&& 0x80 = 0 then some 0
    else if b &&& 0xE0 = 0xC0 then some 1
    else if b &&& 0xF0 = 0xE0 then some 2
    else if b &&& 0xF8 = 0xF0 then some 3
    else none
  let (bs, c) ← readContinuations more c
  return (b :: bs, c)

def readTagChars (verbatim : Bool) : (fuel : Nat) → Cursor → Option (Bytes × Cursor)
  | 0, c => some ([], c)
  | fuel + 1, c =>
    if !isTagChar verbatim c.current then some ([], c)
    else if c.current = '%' then do
      let (bs, c) ← readPercentChar c
      let (rest, c) ← readTagChars verbatim fuel c
      return (bs ++ rest, c)
    else do
      let (rest, after) ← readTagChars verbatim fuel (c.advance 1)
      return (UInt8.ofNat c.current.toNat :: rest, after)

def readSuffix (verbatim : Bool) (before : List Char) (c : Cursor) : Option (Bytes × Cursor) := do
  let (bs, after) ← readTagChars verbatim c.size c
  if before.isEmpty ∧ bs.isEmpty then none
  return (Bytes.ofChars (before.drop 1) ++ bs, after)

def readTag (c : Cursor) : Option (Token × Cursor) := do
  if c.peek 1 = '<' then
    let (suffix, after) ← readSuffix true [] (c.advance 2)
    if after.current ≠ '>' then none
    return (.tag "" suffix, after.advance 1)
  let (handle, after) ← readHandle false c
  if 1 < handle.length ∧ handle.getLast? = some '!' then
    let (suffix, after) ← readSuffix false [] after
    return (.tag (String.ofList handle) suffix, after)
  let (suffix, after) ← readSuffix false handle after
  return (if suffix.isEmpty then .tag "" [33] else .tag "!" suffix, after)

def readAnchor (c : Cursor) : Option (String × Cursor) :=
  let (name, after) := (c.advance 1).takeWhile isWordChar
  if name.isEmpty ∨ !(isWordEnd after.current || "?:,]\x7d%@`".toList.contains after.current) then
    none
  else some (String.ofList name, after)

def readVersion (c : Cursor) : Option (Token × Cursor) := do
  let (major, c) ← readVersionNumber c
  if c.current ≠ '.' then none
  let (minor, c) ← readVersionNumber (c.advance 1)
  return (.version major minor, c)

def readTagDirective (c : Cursor) : Option (Token × Cursor) := do
  let (handle, c) ← readHandle true c
  if !isBlank c.current then none
  let (stem, c) ← readSuffix true [] (c.dropWhile isBlank)
  if !isWordEnd c.current then none
  return (.tagDirective (String.ofList handle) stem, c)

def readDirective (c : Cursor) : Option (Token × Cursor) := do
  let (name, c) := (c.advance 1).takeWhile isWordChar
  if name.isEmpty ∨ !isWordEnd c.current then none
  let body := c.dropWhile isBlank
  let (t, c) ←
    if name = "YAML".toList then readVersion body
    else if name = "TAG".toList then readTagDirective body
    else none
  let c ← c.blankLine?
  return (t, c.nextLine)

namespace Scanner

def endBlocks (s : Scanner) : Option Scanner := do
  let s ← (s.closeBlocks (-1)).dropKey
  return { s with keyAllowed := false }

def openFlow (t : Token) (s : Scanner) : Option Scanner := do
  let s ← s.saveKey
  return { (s.push t).advance 1 with
    keys := none :: s.keys, flow := s.flow + 1, keyAllowed := true }

def closeFlow (t : Token) (s : Scanner) : Option Scanner := do
  let s ← s.dropKey
  let keys := if s.flow = 0 then s.keys else s.keys.drop 1
  return { (s.push t).advance 1 with keys, flow := s.flow - 1, keyAllowed := false }

def blockSign (block sign : Token) (keyAllowed : Bool) (s : Scanner) : Option Scanner := do
  if s.flow = 0 ∧ !s.keyAllowed then none
  let s ← (s.openBlock s.cursor.column none block).dropKey
  return { (s.push sign).advance 1 with keyAllowed }

def valueSign (s : Scanner) : Option Scanner :=
  match s.keys with
  | some place :: rest =>
    let s := (s.insertAt place.number .key).openBlock place.column (some place.number) .blockMapping
    some { (s.push .value).advance 1 with keys := none :: rest, keyAllowed := false }
  | _ =>
    if s.flow = 0 ∧ !s.keyAllowed then none
    else
      let s := s.openBlock s.cursor.column none .blockMapping
      some { (s.push .value).advance 1 with keyAllowed := s.flow == 0 }

def keyPart (read : Cursor → Option (Token × Cursor)) (s : Scanner) : Option Scanner := do
  let s ← s.saveKey
  let (t, cursor) ← read s.cursor
  return { s.push t with cursor, keyAllowed := false }

/-- A plain scalar; behind one that ends with its line a key may begin. -/
def plain (s : Scanner) : Option Scanner := do
  let s ← s.saveKey
  let (text, broken, cursor) ← plainScalar (0 < s.flow) (s.indent + 1).toNat s.cursor
  return { s.push (.scalar true text) with cursor, keyAllowed := broken }

def startsPlain (flow : Bool) (c next : Char) : Bool :=
  !(isWordEnd c || "-?:,[]\x7b\x7d#&*!|>'\"%@`".toList.contains c)
    || (c == '-' && !isBlank next)
    || (!flow && (c == '?' || c == ':') && !isWordEnd next)

def token (s : Scanner) : Option Scanner :=
  let c := s.cursor
  let ch := c.current
  let ends := isWordEnd (c.peek 1)
  let flow := decide (0 < s.flow)
  if c.column = 0 ∧ ch = '%' then do
    let s ← s.endBlocks
    let (t, cursor) ← readDirective s.cursor
    return { s.push t with cursor }
  else if c.atWord ['-', '-', '-'] then s.endBlocks.map fun s => (s.push .documentStart).advance 3
  else if c.atWord ['.', '.', '.'] then s.endBlocks.map fun s => (s.push .documentEnd).advance 3
  else if ch = '[' then s.openFlow .flowSequence
  else if ch = '\x7b' then s.openFlow .flowMapping
  else if ch = ']' then s.closeFlow .flowSequenceEnd
  else if ch = '\x7d' then s.closeFlow .flowMappingEnd
  else if ch = ',' then do
    let s ← s.dropKey
    return { (s.push .flowEntry).advance 1 with keyAllowed := true }
  else if ch == '-' && ends then
    if flow then do
      let s ← s.dropKey
      return { (s.push .blockEntry).advance 1 with keyAllowed := true }
    else s.blockSign .blockSequence .blockEntry true
  else if ch == '?' && (flow || ends) then s.blockSign .blockMapping .key (!flow)
  else if ch == ':' && (flow || ends) then s.valueSign
  else if ch = '*' then s.keyPart fun c => (readAnchor c).map fun (name, c) => (.alias name, c)
  else if ch = '&' then s.keyPart fun c => (readAnchor c).map fun (name, c) => (.anchor name, c)
  else if ch = '!' then s.keyPart fun c => do
    let (t, after) ← readTag c
    if isWordEnd after.current || (flow && after.current == ',') then return (t, after)
    none
  else if (ch == '|' || ch == '>') && !flow then do
    let s ← s.dropKey
    let (text, cursor) ← blockScalar s.indent s.cursor
    return { s.push (.scalar false text) with cursor, keyAllowed := true }
  else if ch == '\'' || ch == '"' then
    s.keyPart fun c => (quotedScalar c).map fun (text, c) => (.scalar false text, c)
  else if startsPlain flow ch (c.peek 1) then s.plain
  else none

def run : (fuel : Nat) → Scanner → Option (List Token)
  | 0, _ => none
  | fuel + 1, s => do
    let s ← (s.skipBlanks (s.cursor.size + 1)).dropStaleKeys
    let s := s.closeBlocks s.cursor.column
    if s.cursor.current = endMark then
      let s ← (s.closeBlocks (-1)).dropKey
      return s.tokens.toList
    else
      let s ← s.token
      run fuel s

end Scanner

def Token.ofChars? (cs : List Char) : Option (List Token) :=
  if cs.all isAllowed then (Scanner.start cs).run (cs.length + 1) else none

end ClusterSurvey.Yaml
