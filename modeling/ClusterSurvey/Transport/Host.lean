import ClusterSurvey.Bytes.Utf8
import ClusterSurvey.Text.Case
import ClusterSurvey.Text.Split
import ClusterSurvey.Transport.Percent
import ClusterSurvey.Transport.Punycode

/-!
The hosts of addresses: names, four numbers, or eight words in brackets. A name whose last part is a
number is read as numbers, in decimal, octal or hexadecimal form. Hosts have one text each.
-/
namespace ClusterSurvey.Transport

inductive Host where
  | name (text : List Char)
  /-- A 32-bit word. -/
  | four (word : Nat)
  /-- Eight 16-bit words. -/
  | eight (words : List Nat)
  deriving DecidableEq, Repr

namespace Host

def number? (cs : List Char) : Option Nat :=
  match cs with
  | [] => none
  | '0' :: 'x' :: rest => Hex.number? 16 rest
  | '0' :: 'X' :: rest => Hex.number? 16 rest
  | '0' :: rest => Hex.number? 8 rest
  | _ => Hex.number? 10 cs

def labels (cs : List Char) : List (List Char) :=
  let parts := Text.splitAt '.' cs
  if parts.length ≠ 1 ∧ parts.getLast? = some [] then parts.dropLast else parts

def endsInNumber (cs : List Char) : Bool :=
  match (labels cs).getLast? with
  | some last => !last.isEmpty && (last.all Char.isDigit || (number? last).isSome)
  | none => false

/-- The word of at most four numbers, of which the last fills what the others leave. -/
def four? (cs : List Char) : Option Nat := do
  let parts := labels cs
  if 4 < parts.length then none
  let numbers ← parts.mapM number?
  let front := numbers.dropLast
  let last := numbers.getLastD 0
  if Nat.pow 256 (4 - front.length) ≤ last ∨ front.any (255 < ·) then none
  return ((List.range front.length).zip front).foldl
    (fun n (i, v) => n + v * Nat.pow 256 (3 - i)) last

def lastFour? (cs : List Char) : Option (List Nat) := do
  let numbers ← (Text.splitAt '.' cs).mapM fun p =>
    if p.isEmpty ∨ (p.length ≠ 1 ∧ p.head? = some '0') then none
    else (Hex.number? 10 p).filter (· < 256)
  match numbers with
  | [a, b, c, d] => some [a * 256 + b, c * 256 + d]
  | _ => none

/-- Words with colons between them; the last two may be given as four numbers. -/
def words? : List (List Char) → Option (List Nat)
  | [] => some []
  | [part] =>
    if part.contains '.' then lastFour? part
    else if part.isEmpty ∨ 4 < part.length then none
    else (Hex.number? 16 part).map ([·])
  | part :: rest => do
    if part.isEmpty ∨ 4 < part.length then none
    let word ← Hex.number? 16 part
    let others ← words? rest
    return word :: others

def atGap : List Char → Option (List Char × List Char)
  | [] => none
  | [_] => none
  | c :: d :: cs =>
    if c = ':' ∧ d = ':' then some ([], cs) else (atGap (d :: cs)).map fun (a, b) => (c :: a, b)

def wordList? (cs : List Char) : Option (List Nat) :=
  if cs.isEmpty then some [] else words? (Text.splitAt ':' cs)

/-- The eight words of a text in brackets. Two colons in a row stand for one or more words that are
zero. -/
def eight? (cs : List Char) : Option (List Nat) :=
  match atGap cs with
  | none => (wordList? cs).filter (·.length = 8)
  | some (front, back) => do
    if front.contains '.' then none
    let a ← wordList? front
    let b ← wordList? back
    if 7 < a.length + b.length then none
    return a ++ List.replicate (8 - a.length - b.length) 0 ++ b

def isForbidden (c : Char) : Bool :=
  c.toNat ≤ 0x20 || c.toNat = 0x7F
    || ['%', '#', '/', ':', '<', '>', '?', '@', '[', '\\', ']', '^', '|'].contains c

def asciiLabel (label : List Char) : List Char :=
  let label := Text.lower label
  if label.all (·.toNat < 128) then label else "xn--".toList ++ Punycode.encode label

def named? (cs : List Char) : Option Host := do
  let text ← Utf8.decode? (Percent.decode cs)
  let name := ['.'].intercalate ((Text.splitAt '.' text).map asciiLabel)
  if name.isEmpty ∨ name.any isForbidden then none
  if endsInNumber name then (four? name).map four else return .name name

def parse? (cs : List Char) : Option Host :=
  match cs with
  | '[' :: rest => if rest.getLast? = some ']' then (eight? rest.dropLast).map eight else none
  | _ => named? cs

def zeros (words : List Nat) : Nat := (words.takeWhile (· = 0)).length

def longestGap : (place : Nat) → List Nat → Nat × Nat
  | _, [] => (0, 0)
  | place, w :: ws =>
    let here := zeros (w :: ws)
    let (later, length) := longestGap (place + 1) ws
    if length ≤ here then (place, here) else (later, length)

def wordsText (words : List Nat) : List Char := [':'].intercalate (words.map (Nat.toDigits 16))

/-- The text of eight words. Two or more zeros in a row are left out at one place. -/
def eightText (words : List Nat) : List Char :=
  let (place, length) := longestGap 0 words
  if length < 2 then wordsText words
  else wordsText (words.take place) ++ ':' :: ':' :: wordsText (words.drop (place + length))

def text : Host → List Char
  | name cs => cs
  | four w =>
      ['.'].intercalate ([w / 16777216, w / 65536 % 256, w / 256 % 256, w % 256].map
        (Nat.toDigits 10))
  | eight words => '[' :: eightText words ++ [']']

end Host

end ClusterSurvey.Transport
