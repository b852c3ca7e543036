import ClusterSurvey.Redaction.Mask
import ClusterSurvey.Text.Blank

/-!
Redaction of free text: every web address up to the next white space and every IPv4 address is
replaced by as many `x` as it has bytes. Texts are searched from the left, and the search goes on
behind what was replaced.
-/
namespace ClusterSurvey.Redaction

def maskChars (cs : List Char) : List Char := cs.flatMap fun c => List.replicate c.utf8Size 'x'

/-- Replaces what `find` finds, which is the number of characters that match at the front of its
argument. A match of no characters counts as none. -/
def maskMatches (find : List Char → Option Nat) (cs : List Char) : List Char :=
  match cs with
  | [] => []
  | c :: rest =>
    match find (c :: rest) with
    | some (n + 1) => maskChars ((c :: rest).take (n + 1)) ++ maskMatches find (rest.drop n)
    | _ => c :: maskMatches find rest
termination_by cs.length
decreasing_by
  · simp only [List.length_drop, List.length_cons]; omega
  · simp

def webAddress? (cs : List Char) : Option Nat :=
  let body := fun n => n + ((cs.drop n).takeWhile fun c => !Text.isBlank c).length
  if "https://".toList.isPrefixOf cs then some (body 8)
  else if "http://".toList.isPrefixOf cs then some (body 7)
  else none

def inRange (low high c : Char) : Bool := low ≤ c && c ≤ high

/-- The lengths that a number from 0 to 255 at the front can have, the preferred one first: 250 to
255, 200 to 249, then one or two digits behind a 0 or 1 and, last, one or two digits. -/
def octetLengths (cs : List Char) : List Nat :=
  let digit := fun i => (cs[i]?).any (inRange '0' '9')
  let first := fun low high => (cs[0]?).any (inRange low high)
  let second := fun low high => (cs[1]?).any (inRange low high)
  let third := fun low high => (cs[2]?).any (inRange low high)
  (if first '2' '2' && second '5' '5' && third '0' '5' then [3] else [])
    ++ (if first '2' '2' && second '0' '4' && third '0' '9' then [3] else [])
    ++ (if first '0' '1' && digit 1 then (if digit 2 then [3, 2] else [2]) else [])
    ++ (if digit 0 then (if digit 1 then [2, 1] else [1]) else [])

def octetTail? : (more : Nat) → List Char → Option Nat
  | 0, _ => some 0
  | more + 1, '.' :: cs =>
    (octetLengths cs).findSome? fun n => (octetTail? more (cs.drop n)).map (1 + n + ·)
  | _ + 1, _ => none

def ipv4Address? (cs : List Char) : Option Nat :=
  (octetLengths cs).findSome? fun n => (octetTail? 3 (cs.drop n)).map (n + ·)

def maskFreeText (s : String) : String :=
  String.ofList (maskMatches ipv4Address? (maskMatches webAddress? s.toList))

mutual

def maskTexts : Json → Json
  | .str s => .str (maskFreeText s)
  | .arr items => .arr (maskItemTexts items)
  | .obj members => .obj (maskMemberTexts members)
  | v => v

def maskItemTexts : List Json → List Json
  | [] => []
  | v :: rest => maskTexts v :: maskItemTexts rest

def maskMemberTexts : List (String × Json) → List (String × Json)
  | [] => []
  | (k, v) :: rest => (k, maskTexts v) :: maskMemberTexts rest

end

end ClusterSurvey.Redaction
