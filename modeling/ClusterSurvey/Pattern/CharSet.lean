import ClusterSurvey.Text.Blank
import ClusterSurvey.Text.Category
import ClusterSurvey.Text.Folding
import ClusterSurvey.Text.Word

/-!
Sets of characters as expressions. Membership is decided by evaluation, so no set is ever listed.
-/
namespace ClusterSurvey.Pattern

/-- A set of characters, which stand for their numbers. -/
inductive CharSet where
  /-- The numbers in any of the closed intervals. -/
  | ranges (intervals : List (Nat × Nat))
  /-- The numbers in a table of interval ends. -/
  | table (ends : List Nat)
  | union (a b : CharSet)
  | inter (a b : CharSet)
  | diff (a b : CharSet)
  | symmetric (a b : CharSet)
  | complement (a : CharSet)
  /-- All characters that equal one of the set when case does not matter. -/
  | folded (a : CharSet)
  /-- The same for ASCII letters only. -/
  | foldedAscii (a : CharSet)

namespace CharSet

def otherCase (n : Nat) : Nat :=
  if 65 ≤ n ∧ n ≤ 90 then n + 32 else if 97 ≤ n ∧ n ≤ 122 then n - 32 else n

def has : CharSet → Nat → Bool
  | ranges intervals, n => intervals.any fun r => r.1 ≤ n && n ≤ r.2
  | table ends, n => Text.within ends n
  | union a b, n => a.has n || b.has n
  | inter a b, n => a.has n && b.has n
  | diff a b, n => a.has n && !b.has n
  | symmetric a b, n => a.has n != b.has n
  | complement a, n => !a.has n
  | folded a, n => (Text.foldClass n).any fun m => a.has m
  | foldedAscii a, n => a.has n || a.has (otherCase n)

def none : CharSet := ranges []

def single (c : Char) : CharSet := ranges [(c.toNat, c.toNat)]

def interval (first last : Char) : CharSet := ranges [(first.toNat, last.toNat)]

def negateIf (negated : Bool) (a : CharSet) : CharSet := if negated then a.complement else a

def decimal : CharSet := table Text.categoryNd

def word : CharSet := table Text.wordTable

def blank : CharSet :=
  ranges [(9, 13), (0x20, 0x20), (0x85, 0x85), (0xA0, 0xA0), (0x1680, 0x1680), (0x2000, 0x200A),
    (0x2028, 0x2029), (0x202F, 0x202F), (0x205F, 0x205F), (0x3000, 0x3000)]

def asciiDecimal : CharSet := ranges [(48, 57)]

def asciiWord : CharSet := ranges [(48, 57), (65, 90), (95, 95), (97, 122)]

def asciiBlank : CharSet := ranges [(9, 13), (32, 32)]

def asciiClasses : List (String × CharSet) := [
  ("alnum", ranges [(48, 57), (65, 90), (97, 122)]),
  ("alpha", ranges [(65, 90), (97, 122)]),
  ("ascii", ranges [(0, 127)]),
  ("blank", ranges [(9, 9), (32, 32)]),
  ("cntrl", ranges [(0, 31), (127, 127)]),
  ("digit", asciiDecimal),
  ("graph", ranges [(33, 126)]),
  ("lower", ranges [(97, 122)]),
  ("print", ranges [(32, 126)]),
  ("punct", ranges [(33, 47), (58, 64), (91, 96), (123, 126)]),
  ("space", asciiBlank),
  ("upper", ranges [(65, 90)]),
  ("word", asciiWord),
  ("xdigit", ranges [(48, 57), (65, 70), (97, 102)])]

end CharSet

end ClusterSurvey.Pattern
