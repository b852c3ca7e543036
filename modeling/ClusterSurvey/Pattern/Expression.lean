import ClusterSurvey.Bytes.Hex
import ClusterSurvey.Text.Blank
import ClusterSurvey.Text.Category
import ClusterSurvey.Text.Script

/-!
The written form of patterns: alternation, concatenation, repetition, groups with flags, sets in
brackets with set operations, escapes and conditions. There are no references to groups and no
conditions on text further away than the neighbours of a place.
-/
namespace ClusterSurvey.Pattern

structure FlagChange where
  on : List Char
  off : List Char

def FlagChange.state (change : FlagChange) (flag : Char) : Option Bool :=
  if change.on.contains flag then some true
  else if change.off.contains flag then some false
  else none

inductive Anchor where
  | lineStart
  | lineEnd
  | textStart
  | textEnd
  | boundary
  | noBoundary
  | wordStart
  | wordEnd
  | wordStartHalf
  | wordEndHalf
  deriving DecidableEq

inductive Shorthand where
  | digit
  | space
  | word
  deriving DecidableEq

inductive SetOperation where
  | intersection
  | difference
  | symmetricDifference
  deriving DecidableEq

inductive SetTerm where
  | char (c : Char) (byte : Bool)
  | range (first last : Char)
  | shorthand (kind : Shorthand) (negated : Bool)
  | ascii (name : String) (negated : Bool)
  | property (name : String) (negated : Bool)
  | brackets (negated : Bool) (content : SetTerm)
  | union (terms : List SetTerm)
  | operation (op : SetOperation) (a b : SetTerm)

inductive Expression where
  | empty
  | flags (change : FlagChange)
  /-- A character, and whether it was written as a byte of two hexadecimal digits. -/
  | char (c : Char) (byte : Bool)
  | dot
  | anchor (a : Anchor)
  | set (s : SetTerm)
  | times (least : Nat) (most : Option Nat) (e : Expression)
  | group (change : FlagChange) (e : Expression)
  | seq (es : List Expression)
  | alt (es : List Expression)

/-- The state of reading: what is left, whether white space does not count, and the names of
groups. -/
structure Reading where
  rest : List Char
  spaced : Bool
  names : List (List Char)

abbrev Read (α : Type) : Type := StateT Reading Option α

namespace Read

def peek : Read (Option Char) := return (← get).rest.head?

def bump : Read Unit := modify fun s => { s with rest := s.rest.drop 1 }

def skipIf (word : List Char) : Read Bool := do
  let s ← get
  if word.isPrefixOf s.rest then
    set { s with rest := s.rest.drop word.length }
    return true
  return false

def afterSpace : (fuel : Nat) → List Char → List Char
  | 0, cs => cs
  | fuel + 1, cs =>
    match cs.dropWhile Text.isBlank with
    | '#' :: rest => afterSpace fuel ((rest.dropWhile (· ≠ '\n')).drop 1)
    | rest => rest

/-- Passes white space and comments where they do not count. -/
def skipSpace : Read Unit :=
  modify fun s => if s.spaced then { s with rest := afterSpace s.rest.length s.rest } else s

def bumpSpace : Read Unit := do
  bump
  skipSpace

def peekSecond : Read (Option Char) := do
  let s ← get
  let rest := s.rest.drop 1
  return (if s.spaced then afterSpace rest.length rest else rest).head?

def char : Read Char := do
  match ← peek with
  | some c => return c
  | none => failure

def skipBlanks : Read Unit := modify fun s => { s with rest := s.rest.dropWhile Text.isBlank }

def many (p : Char → Bool) : (fuel : Nat) → Read (List Char)
  | 0 => return []
  | fuel + 1 => do
    match ← peek with
    | some c =>
      if p c then
        bumpSpace
        return c :: (← many p fuel)
      return []
    | none => return []

def fuel : Read Nat := return (← get).rest.length + 1

def decimal? : Read (Option Nat) := do
  skipBlanks
  let ds ← many Char.isDigit (← fuel)
  skipBlanks
  skipSpace
  if ds.isEmpty then return none
  let n := ds.foldl (fun n d => n * 10 + (d.toNat - '0'.toNat)) 0
  if n < 4294967296 then return some n else failure

def ofHex (ds : List Char) : Read Char := do
  if ds.isEmpty then failure
  match ds.foldlM (fun n d => (Hex.value? d).map (n * 16 + ·)) 0 with
  | some n => if h : n.isValidChar then return Char.ofNatAux n h else failure
  | none => failure

def exactly : (n : Nat) → Read (List Char)
  | 0 => return []
  | n + 1 => do
    let c ← char
    bumpSpace
    return c :: (← exactly n)

/-- A character by its number, behind the letter that tells how many digits there are without
braces. -/
def hexEscape (width : Nat) : Read (Char × Bool) := do
  bumpSpace
  if (← char) = '\x7b' then
    bumpSpace
    let ds ← many (· ≠ '\x7d') (← fuel)
    if (← char) ≠ '\x7d' then failure
    bump
    return (← ofHex ds, false)
  let ds ← exactly width
  return (← ofHex ds, width == 2)

def isMeta (c : Char) : Bool := "\\.+*?()|[]\x7b\x7d^$#&-~".toList.contains c

def isEscapable (c : Char) : Bool :=
  isMeta c || (c.toNat < 128 && !c.isAlphanum && c ≠ '<' && c ≠ '>')

def control? (c : Char) : Option Char :=
  if c = 'a' then some (Char.ofNat 7)
  else if c = 'f' then some (Char.ofNat 12)
  else if c = 't' then some '\t'
  else if c = 'n' then some '\n'
  else if c = 'r' then some '\r'
  else if c = 'v' then some (Char.ofNat 11)
  else none

inductive Primitive where
  | char (c : Char) (byte : Bool)
  | dot
  | anchor (a : Anchor)
  | set (s : SetTerm)

def boundaryName? (name : List Char) : Option Anchor :=
  if name = "start".toList then some .wordStart
  else if name = "end".toList then some .wordEnd
  else if name = "start-half".toList then some .wordStartHalf
  else if name = "end-half".toList then some .wordEndHalf
  else none

/-- A word boundary, with or without a name. Braces with other than letters and hyphens are left for
a repetition. -/
def boundary : Read Primitive := do
  let s ← get
  match s.rest with
  | '\x7b' :: rest =>
    let inner := if s.spaced then afterSpace rest.length rest else rest
    let isNameChar := fun (c : Char) => c.isAlpha || c == '-'
    if !(inner.head?.any isNameChar) then
      if inner.isEmpty then failure
      return .anchor .boundary
    let name := inner.takeWhile isNameChar
    let rest := inner.drop name.length
    let rest := if s.spaced then afterSpace rest.length rest else rest
    match rest with
    | '\x7d' :: rest =>
      match boundaryName? name with
      | some a =>
        set { s with rest }
        return .anchor a
      | none => failure
    | _ => failure
  | _ => return .anchor .boundary

def property (negated : Bool) : Read Primitive := do
  bumpSpace
  let c ← char
  if c = '\x7b' then
    bumpSpace
    let name ← many (· ≠ '\x7d') (← fuel)
    if (← char) ≠ '\x7d' then failure
    bump
    return .set (.property (String.ofList name) negated)
  if c = '\\' then failure
  bumpSpace
  return .set (.property (String.singleton c) negated)

def escape : Read Primitive := do
  bump
  let c ← char
  if c.isDigit then failure
  if c = 'x' then return (fun p => Primitive.char p.1 p.2) (← hexEscape 2)
  if c = 'u' then return (fun p => Primitive.char p.1 p.2) (← hexEscape 4)
  if c = 'U' then return (fun p => Primitive.char p.1 p.2) (← hexEscape 8)
  if c = 'p' ∨ c = 'P' then return (← property (c = 'P'))
  bump
  match control? c with
  | some control => return .char control false
  | none => pure ()
  if isEscapable c then return .char c false
  match c with
  | 'd' => return .set (.shorthand .digit false)
  | 'D' => return .set (.shorthand .digit true)
  | 's' => return .set (.shorthand .space false)
  | 'S' => return .set (.shorthand .space true)
  | 'w' => return .set (.shorthand .word false)
  | 'W' => return .set (.shorthand .word true)
  | 'A' => return .anchor .textStart
  | 'z' => return .anchor .textEnd
  | 'b' => boundary
  | 'B' => return .anchor .noBoundary
  | '<' => return .anchor .wordStart
  | '>' => return .anchor .wordEnd
  | _ => failure

def setPart : Read Primitive := do
  let c ← char
  if c = '\\' then escape
  else
    bump
    return .char c false

def partTerm : Primitive → Read SetTerm
  | .char c byte => return .char c byte
  | .set s => return s
  | _ => failure

def partChar : Primitive → Read Char
  | .char c _ => return c
  | _ => failure

def setRange : Read SetTerm := do
  let first ← setPart
  skipSpace
  let c ← char
  let second ← peekSecond
  if c ≠ '-' ∨ second = some ']' ∨ second = some '-' then return (← partTerm first)
  bumpSpace
  let _ ← char
  let last ← setPart
  let low ← partChar first
  let high ← partChar last
  if high < low then failure
  return .range low high

def asciiNames : List String :=
  ["alnum", "alpha", "ascii", "blank", "cntrl", "digit", "graph", "lower", "print", "punct",
    "space", "upper",
    "word", "xdigit"]

def asciiClass? : Read (Option SetTerm) := do
  let s ← get
  match s.rest with
  | '[' :: ':' :: rest =>
    let negated := rest.head? = some '^'
    let rest := if negated then rest.drop 1 else rest
    let name := rest.takeWhile (· ≠ ':')
    let text := String.ofList name
    match rest.drop name.length with
    | ':' :: ']' :: rest =>
      if text ∈ asciiNames then
        set { s with rest }
        return some (.ascii text negated)
      return none
    | _ => return none
  | _ => return none

def gathered (terms : List SetTerm) : SetTerm := .union terms.reverse

def joined (pending : Option (SetOperation × SetTerm)) (s : SetTerm) : SetTerm :=
  match pending with
  | some (op, a) => .operation op a s
  | none => s

def operation? : Read (Option SetOperation) := do
  if ← skipIf ['&', '&'] then return some .intersection
  if ← skipIf ['-', '-'] then return some .difference
  if ← skipIf ['~', '~'] then return some .symmetricDifference
  return none

mutual

def brackets : (fuel : Nat) → Read SetTerm
  | 0 => failure
  | fuel + 1 => do
    bumpSpace
    let negated := (← char) = '^'
    if negated then bumpSpace
    let hyphens ← many (· == '-') (← Read.fuel)
    let c ← char
    let first := hyphens.map fun h => SetTerm.char h false
    let first ← if hyphens.isEmpty && c == ']' then do
        bumpSpace
        let _ ← char
        pure [SetTerm.char ']' false]
      else pure first
    return .brackets negated (← setTerms none first fuel)

/-- Reads the parts of a set up to its closing bracket; `terms` holds those read, the last one
first. -/
def setTerms (pending : Option (SetOperation × SetTerm)) (terms : List SetTerm) :
    (fuel : Nat) → Read SetTerm
  | 0 => failure
  | fuel + 1 => do
    skipSpace
    let c ← char
    if c = '[' then
      match ← asciiClass? with
      | some s => setTerms pending (s :: terms) fuel
      | none =>
        let s ← brackets fuel
        setTerms pending (s :: terms) fuel
    else if c = ']' then
      bump
      return joined pending (gathered terms)
    else
      match ← operation? with
      | some op => setTerms (some (op, joined pending (gathered terms))) [] fuel
      | none =>
        let s ← setRange
        setTerms pending (s :: terms) fuel

end

def flagChange (on : Bool) (seen : List Char) : (fuel : Nat) → Read FlagChange
  | 0 => failure
  | fuel + 1 => do
    let c ← char
    if c = ':' ∨ c = ')' then
      return ⟨[], []⟩
    bump
    if c = '-' then
      let next ← char
      if !on ∨ next = ':' ∨ next = ')' then failure
      flagChange false seen fuel
    else
      if !"imsUuRx".toList.contains c ∨ seen.contains c then failure
      let _ ← char
      let change ← flagChange on (c :: seen) fuel
      return if on then { change with on := c :: change.on }
        else { change with off := c :: change.off }

def isNameChar (first : Bool) (c : Char) : Bool :=
  c = '_' || Text.within Text.alphabeticTable c.toNat
    || (!first && (c = '.' || c = '[' || c = ']'
      || ["nd", "nl", "no"].any fun g => (Text.categories.lookup g).any fun t =>
        Text.within t c.toNat))

/-- Reads the name of a group and the sign behind it. A name may be used once. -/
def groupName : Read Unit := do
  let s ← get
  let name := s.rest.takeWhile (· ≠ '>')
  let rest := s.rest.drop name.length
  if rest.isEmpty ∨ name.isEmpty ∨ s.names.contains name then failure
  if !(name.take 1).all (isNameChar true) ∨ !(name.drop 1).all (isNameChar false) then failure
  set { s with rest := rest.drop 1, names := name :: s.names }

def setSpaced (value : Bool) : Read Unit := modify fun s => { s with spaced := value }

def concatenation : List Expression → Expression
  | [] => .empty
  | [e] => e
  | es => .seq es.reverse

/-- The alternatives that were read, given the parts of the last one. -/
def finished (branches parts : List Expression) : Expression :=
  if branches.isEmpty then concatenation parts else .alt (concatenation parts :: branches).reverse

def repeated (least : Nat) (most : Option Nat) : List Expression → Read (List Expression)
  | [] => failure
  | .empty :: _ => failure
  | .flags _ :: _ => failure
  | e :: es => return .times least most e :: es

def bounds : Read (Nat × Option Nat) := do
  bumpSpace
  let _ ← char
  let least ← decimal?
  let c ← char
  let range ←
    if c ≠ ',' then
      match least with
      | some n => pure (n, some n)
      | none => failure
    else do
      bumpSpace
      let least ← match least with
        | some n => pure n
        | none => failure
      if (← char) = '\x7d' then pure (least, none)
      else
        match ← decimal? with
        | some most => pure (least, some most)
        | none => failure
  if (← char) ≠ '\x7d' then failure
  match range.2 with
  | some most => if most < range.1 then failure
  | none => pure ()
  return range

def primitive : Read Expression := do
  let c ← char
  let p ← if c = '\\' then escape
    else do
      bump
      pure (if c = '.' then .dot
        else if c = '^' then .anchor .lineStart
        else if c = '$' then .anchor .lineEnd
        else .char c false)
  return match p with
    | .char c byte => .char c byte
    | .dot => .dot
    | .anchor a => .anchor a
    | .set s => .set s

mutual

/-- Reads alternatives up to a closing parenthesis or the end. `branches` holds those that were read
and `parts` the parts of the current one, the last ones first. -/
def alternatives (branches parts : List Expression) : (fuel : Nat) → Read Expression
  | 0 => failure
  | fuel + 1 => do
    skipSpace
    match ← peek with
    | none => return finished branches parts
    | some ')' => return finished branches parts
    | some '|' =>
      bump
      alternatives (concatenation parts :: branches) [] fuel
    | some '(' =>
      let e ← group fuel
      alternatives branches (e :: parts) fuel
    | some '[' =>
      let s ← brackets (← Read.fuel)
      alternatives branches (.set s :: parts) fuel
    | some '\x7b' =>
      if parts.isEmpty then failure
      let (least, most) ← bounds
      bumpSpace
      let _ ← skipIf ['?']
      alternatives branches (← repeated least most parts) fuel
    | some c =>
      if c = '?' ∨ c = '*' ∨ c = '+' then
        bump
        let _ ← skipIf ['?']
        let most := if c = '?' then some 1 else none
        alternatives branches (← repeated (if c = '+' then 1 else 0) most parts) fuel
      else
        let e ← primitive
        alternatives branches (e :: parts) fuel

def group : (fuel : Nat) → Read Expression
  | 0 => failure
  | fuel + 1 => do
    bumpSpace
    for look in [['?', '='], ['?', '!'], ['?', '<', '='], ['?', '<', '!']] do
      if ← skipIf look then failure
    let outer := (← get).spaced
    if ← skipIf ['?', 'P', '<'] then
      groupName
      groupBody ⟨[], []⟩ outer fuel
    else if ← skipIf ['?', '<'] then
      groupName
      groupBody ⟨[], []⟩ outer fuel
    else if ← skipIf ['?'] then
      let _ ← char
      let change ← flagChange true [] (← Read.fuel)
      let c ← char
      bump
      match FlagChange.state change 'x' with
      | some value => setSpaced value
      | none => pure ()
      if c = ')' then
        if change.on.isEmpty ∧ change.off.isEmpty then failure
        return .flags change
      groupBody change outer fuel
    else groupBody ⟨[], []⟩ outer fuel

/-- Reads a group behind its head. Whether white space counts is as before behind it. -/
def groupBody (change : FlagChange) (outer : Bool) : (fuel : Nat) → Read Expression
  | 0 => failure
  | fuel + 1 => do
    let e ← alternatives [] [] fuel
    if (← peek) ≠ some ')' then failure
    bump
    setSpaced outer
    return .group change e

end

end Read

mutual

def SetTerm.depth : SetTerm → Nat
  | .brackets _ s => s.depth + 1
  | .union ts => depths ts + (if 1 < ts.length then 1 else 0)
  | .operation _ a b => max a.depth b.depth + 1
  | _ => 0

def SetTerm.depths : List SetTerm → Nat
  | [] => 0
  | t :: ts => max t.depth (depths ts)

end


mutual

def Expression.depth : Expression → Nat
  | .set s => s.depth
  | .times _ _ e => e.depth + 1
  | .group _ e => e.depth + 1
  | .seq es => depths es + 1
  | .alt es => depths es + 1
  | _ => 0

def Expression.depths : List Expression → Nat
  | [] => 0
  | e :: es => max e.depth (depths es)

end

def maxDepth : Nat := 250

def Expression.ofChars? (cs : List Char) : Option Expression := do
  let (e, s) ← (Read.alternatives [] [] (3 * cs.length + 3)).run ⟨cs, false, []⟩
  if s.rest ≠ [] ∨ maxDepth < e.depth then none
  return e

end ClusterSurvey.Pattern
