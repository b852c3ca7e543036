import ClusterSurvey.Pattern.CharSet

/-!
Patterns of text and whether one occurs in a text. Places in a text are numbered from 0 in front of
the first character; a set of places is a natural number whose bits tell the places. The places that
a pattern can end at are computed from those it can begin at, so the work never grows with the
number of ways to match.
-/
namespace ClusterSurvey

inductive Look where
  | textStart
  | textEnd
  | lineStart
  | lineEnd
  /-- The same for lines that may end with a carriage return and a newline. -/
  | carriedLineStart
  | carriedLineEnd
  /-- Between a word character of the set and another one. -/
  | wordBoundary (word : Pattern.CharSet)
  | noWordBoundary (word : Pattern.CharSet)
  | wordStart (word : Pattern.CharSet)
  | wordEnd (word : Pattern.CharSet)
  /-- No word character in front. -/
  | wordStartHalf (word : Pattern.CharSet)
  /-- No word character behind. -/
  | wordEndHalf (word : Pattern.CharSet)

inductive Pattern where
  | empty
  | chars (set : Pattern.CharSet)
  | look (condition : Look)
  | seq (a b : Pattern)
  | alt (a b : Pattern)
  /-- At least `least` times, and at most `most` times if that is given. -/
  | times (least : Nat) (most : Option Nat) (a : Pattern)

/-- Whether a condition holds between two characters, of which none stands for the end of the
text. -/
def Look.holds (l : Look) (before after : Option Char) : Bool :=
  let inside := fun (word : Pattern.CharSet) (c : Option Char) => c.any fun c => word.has c.toNat
  match l with
  | textStart => before.isNone
  | textEnd => after.isNone
  | lineStart => before.isNone || before == some '\n'
  | lineEnd => after.isNone || after == some '\n'
  | carriedLineStart =>
    before.isNone || before == some '\n' || (before == some '\r' && after != some '\n')
  | carriedLineEnd =>
    after.isNone || after == some '\r' || (after == some '\n' && before != some '\r')
  | wordBoundary w => inside w before != inside w after
  | noWordBoundary w => inside w before == inside w after
  | wordStart w => !inside w before && inside w after
  | wordEnd w => inside w before && !inside w after
  | wordStartHalf w => !inside w before
  | wordEndHalf w => !inside w after

namespace Pattern

def places (conditions : List Bool) : Nat := conditions.foldr (fun b n => 2 * n + b.toNat) 0

def placesOf (set : CharSet) (text : List Char) : Nat := places (text.map fun c => set.has c.toNat)

def placesAt (l : Look) (text : List Char) : Nat :=
  places (List.zipWith l.holds (none :: text.map some) (text.map some ++ [none]))

/-- The places of the set and all that `step` leads to, in at most `fuel` steps. -/
def closure (step : Nat → Nat) : (fuel : Nat) → (reached fresh : Nat) → Nat
  | 0, reached, _ => reached
  | fuel + 1, reached, fresh =>
    let next := step fresh
    let all := reached ||| next
    if all = reached then reached else closure step fuel all (all ^^^ reached)

/-- The places of the set and all that up to `count` steps lead to. -/
def upTo (step : Nat → Nat) : (count : Nat) → Nat → Nat
  | 0, s => s
  | count + 1, s =>
    let next := step s
    if next = 0 then s else s ||| upTo step count next

def exactly (step : Nat → Nat) : (count : Nat) → Nat → Nat
  | 0, s => s
  | count + 1, s => if s = 0 then 0 else exactly step count (step s)

/-- The places where a match can end that begins at one of the places `s`. -/
def ends (text : List Char) : Pattern → Nat → Nat
  | empty, s => s
  | chars set, s => (s &&& placesOf set text) <<< 1
  | look condition, s => s &&& placesAt condition text
  | seq a b, s => ends text b (ends text a s)
  | alt a b, s => ends text a s ||| ends text b s
  | times least most a, s =>
    let s := exactly (ends text a) least s
    match most with
    | none => closure (ends text a) (text.length + 1) s s
    | some most => upTo (ends text a) (most - least) s

def occursIn (p : Pattern) (text : List Char) : Bool :=
  p.ends text (Nat.pow 2 (text.length + 1) - 1) ≠ 0

end Pattern

end ClusterSurvey
