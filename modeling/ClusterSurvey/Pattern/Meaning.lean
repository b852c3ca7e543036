import ClusterSurvey.Pattern.Basic
import ClusterSurvey.Pattern.Expression
import ClusterSurvey.Pattern.Property

/-!
The pattern that an expression means under flags. Flags that are changed inside a group hold up to
its end, also in later alternatives. Sets of bytes that are no ASCII characters are refused, since
patterns match text.
-/
namespace ClusterSurvey.Pattern

structure Flags where
  insensitive : Bool
  multiline : Bool
  dotAll : Bool
  unicode : Bool
  carried : Bool

def Flags.initial : Flags := ⟨false, false, false, true, false⟩

def Flags.apply (f : Flags) (change : FlagChange) : Flags where
  insensitive := (change.state 'i').getD f.insensitive
  multiline := (change.state 'm').getD f.multiline
  dotAll := (change.state 's').getD f.dotAll
  unicode := (change.state 'u').getD f.unicode
  carried := (change.state 'R').getD f.carried

/-- A set to which the characters of the other case are added if the flags say so. -/
def Flags.fold (f : Flags) (s : CharSet) : CharSet :=
  if f.insensitive then (if f.unicode then .folded s else .foldedAscii s) else s

/-- A set that must not have bytes beyond ASCII unless it is a set of characters. -/
def Flags.checked (f : Flags) (s : CharSet) : Option CharSet :=
  if f.unicode ∨ !(List.range' 128 128).any s.has then some s else none

def Flags.word (f : Flags) : CharSet := if f.unicode then .word else .asciiWord

def Flags.shorthand (f : Flags) : Shorthand → CharSet
  | .digit => if f.unicode then .decimal else .asciiDecimal
  | .space => if f.unicode then .blank else .asciiBlank
  | .word => f.word

mutual

def SetTerm.set? (f : Flags) : SetTerm → Option CharSet
  | .char c _ => if f.unicode ∨ c.toNat < 128 then some (.single c) else none
  | .range a b => if f.unicode ∨ b.toNat < 128 then some (.interval a b) else none
  | .shorthand kind negated => f.checked ((f.shorthand kind).negateIf negated)
  | .ascii name negated =>
    (CharSet.asciiClasses.lookup name).bind fun s => f.checked ((f.fold s).negateIf negated)
  | .property name negated =>
    if f.unicode then (property? name).map fun s => (f.fold s).negateIf negated else none
  | .brackets negated s => (s.set? f).bind fun s => f.checked ((f.fold s).negateIf negated)
  | .union ts => SetTerm.unionOf? f ts
  | .operation op a b => do
    let a := f.fold (← a.set? f)
    let b := f.fold (← b.set? f)
    return match op with
      | .intersection => .inter a b
      | .difference => .diff a b
      | .symmetricDifference => .symmetric a b

def SetTerm.unionOf? (f : Flags) : List SetTerm → Option CharSet
  | [] => some .none
  | t :: ts => do
    let a ← t.set? f
    let b ← unionOf? f ts
    return .union a b

end

def Flags.char? (f : Flags) (c : Char) (byte : Bool) : Option CharSet :=
  if !f.unicode && byte && 128 ≤ c.toNat then none
  else some (f.fold (.single c))

def Flags.dot? (f : Flags) : Option CharSet :=
  if !f.unicode then none
  else if f.dotAll then some (.ranges [(0, 0x10FFFF)])
  else if f.carried then some (.ranges [(0, 9), (11, 12), (14, 0x10FFFF)])
  else some (.ranges [(0, 9), (11, 0x10FFFF)])

def Flags.look (f : Flags) : Anchor → Look
  | .lineStart =>
      if !f.multiline then .textStart else if f.carried then .carriedLineStart else .lineStart
  | .lineEnd => if !f.multiline then .textEnd else if f.carried then .carriedLineEnd else .lineEnd
  | .textStart => .textStart
  | .textEnd => .textEnd
  | .boundary => .wordBoundary f.word
  | .noBoundary => .noWordBoundary f.word
  | .wordStart => .wordStart f.word
  | .wordEnd => .wordEnd f.word
  | .wordStartHalf => .wordStartHalf f.word
  | .wordEndHalf => .wordEndHalf f.word

mutual

def Expression.pattern? (f : Flags) : Expression → Option (Pattern × Flags)
  | .empty => some (.empty, f)
  | .flags change => some (.empty, f.apply change)
  | .char c byte => (f.char? c byte).map fun s => (.chars s, f)
  | .dot => f.dot?.map fun s => (.chars s, f)
  | .anchor a => some (.look (f.look a), f)
  | .set s => (s.set? f).map fun s => (.chars s, f)
  | .times least most e => (e.pattern? f).map fun (p, f) => (.times least most p, f)
  | .group change e => (e.pattern? (f.apply change)).map fun (p, _) => (p, f)
  | .seq es => Expression.seq? f es
  | .alt es => Expression.alt? f es

def Expression.seq? (f : Flags) : List Expression → Option (Pattern × Flags)
  | [] => some (.empty, f)
  | e :: es => do
    let (p, f) ← e.pattern? f
    let (q, f) ← seq? f es
    return (.seq p q, f)

def Expression.alt? (f : Flags) : List Expression → Option (Pattern × Flags)
  | [] => some (.chars .none, f)
  | e :: es => do
    let (p, f) ← e.pattern? f
    let (q, f) ← alt? f es
    return (.alt p q, f)

end

/-- How much room a set needs, in units of one ASCII character. -/
def CharSet.weight : CharSet → Nat
  | ranges intervals => if intervals.all fun r => r.2 < 128 then 1 else 8
  | table ends => ends.length / 4
  | union a b | inter a b | diff a b | symmetric a b => a.weight + b.weight
  | complement a => a.weight + 8
  | folded a | foldedAscii a => 2 * a.weight

/-- How much room a pattern needs when its repetitions are written out. -/
def weight : Pattern → Nat
  | empty => 0
  | chars set => set.weight
  | look _ => 1
  | seq a b => a.weight + b.weight
  | alt a b => a.weight + b.weight + 1
  | times least most a =>
    match most with
    | none => (max least 1) * a.weight + 1
    | some most => least * a.weight + (most - least) * (a.weight + 1)

def maxWeight : Nat := 327680

def ofString? (s : String) : Option Pattern := do
  let e ← Expression.ofChars? s.toList
  let (p, _) ← e.pattern? .initial
  if maxWeight < p.weight then none
  return p

def isMatch (p : Pattern) (s : String) : Bool := p.occursIn s.toList

end ClusterSurvey.Pattern
