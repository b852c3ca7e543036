import ClusterSurvey.Json.Basic

/-!
Reading JSON text. A number without fraction and exponent that fits 64 bits is whole; any other
takes its leading digits as a 64-bit word, rounds that to double precision and scales it by one
power of ten, rounding again. Values nest at most 127 deep, and of two members with one name the
later counts.
-/
namespace ClusterSurvey.Json

def isSpace (c : Char) : Bool := c = ' ' || c = '\t' || c = '\n' || c = '\r'

def skipSpace (cs : List Char) : List Char := cs.dropWhile isSpace

def expect (word cs : List Char) : Option (List Char) :=
  if word.isPrefixOf cs then some (cs.drop word.length) else none

/-- Scales by a power of ten, in steps of at most 308 places downward; nothing when the number is
too large. -/
def scale : (fuel : Nat) → Binary64 → Int → Option Binary64
  | 0, x, _ => some x
  | fuel + 1, x, e =>
    if e.natAbs ≤ 308 then
      let p := Binary64.ofDecimal 1 e.natAbs
      if 0 ≤ e then
        let y := x.mul p
        if y.isFinite then some y else none
      else some (x.div p)
    else if x.isZero then some x
    else if 0 ≤ e then none
    else scale fuel (x.div (Binary64.ofDecimal 1 308)) (e + 308)

def realOf (negative : Bool) (significand : Nat) (exponent : Int) : Option Json :=
  let bounded := if exponent < -2000 then -2000 else exponent
  (scale 8 (Binary64.ofNat significand) bounded).map
    fun x => .real (if negative then x.neg else x)

def wordMax : Nat := 18446744073709551615

/-- The value of a run of digits as long as it fits a 64-bit word, and the digits that no longer
fit. -/
def significand : (acc : Nat) → List Char → Nat × List Char
  | acc, [] => (acc, [])
  | acc, c :: rest =>
    let next := acc * 10 + (c.toNat - '0'.toNat)
    if next ≤ wordMax then significand next rest else (acc, c :: rest)

/-- The number made of a sign, whole digits, fraction digits (if there is a point) and an exponent
(if there is one). Digits that no longer fit the word are dropped; those of the whole part still
count as places. -/
def numberOf (negative : Bool) (wholePart : List Char) (fraction : Option (List Char))
    (exponent : Option (Bool × List Char)) : Option Json :=
  let (word, left) := significand 0 wholePart
  if left.isEmpty ∧ fraction.isNone ∧ exponent.isNone then
    if negative = false then some (.int word)
    else if word = 0 ∨ 9223372036854775808 < word then some (.real (Binary64.ofNat word).neg)
    else some (.int (-(word : Int)))
  else
    let places := fraction.getD []
    let (word, dropped) := significand word places
    let base : Int := (left.length : Int) - (places.length - dropped.length : Nat)
    match exponent with
    | none => realOf negative word base
    | some (minus, ds) =>
      let e := Nat.ofDigitChars 10 ds 0
      if 2147483647 < e then
        if word ≠ 0 ∧ minus = false then none
        else some (.real (if negative then (Binary64.ofNat 0).neg else Binary64.ofNat 0))
      else realOf negative word (if minus then base - e else base + e)

def readExponent (cs : List Char) : Option (Option (Bool × List Char) × List Char) :=
  match cs with
  | c :: rest =>
    if c = 'e' ∨ c = 'E' then
      let (minus, rest) := match rest with
        | '+' :: r => (false, r)
        | '-' :: r => (true, r)
        | r => (false, r)
      let ds := rest.takeWhile Char.isDigit
      if ds.isEmpty then none else some (some (minus, ds), rest.drop ds.length)
    else some (none, cs)
  | [] => some (none, [])

def readUnsigned (negative : Bool) (cs : List Char) : Option (Json × List Char) := do
  let ds := cs.takeWhile Char.isDigit
  let rest := cs.drop ds.length
  if ds.isEmpty ∨ (1 < ds.length ∧ ds.head? = some '0') then none
  let (fraction, rest) ← match rest with
    | '.' :: r =>
      let fs := r.takeWhile Char.isDigit
      if fs.isEmpty then none else some (some fs, r.drop fs.length)
    | r => some (none, r)
  let (exponent, rest) ← readExponent rest
  let n ← numberOf negative ds fraction exponent
  return (n, rest)

def hex4 (cs : List Char) : Option (Nat × List Char) :=
  match cs with
  | a :: b :: c :: d :: rest => do
    let digit := fun (x : Char) =>
      if x.isDigit then some (x.toNat - '0'.toNat)
      else if 'a' ≤ x ∧ x ≤ 'f' then some (x.toNat - 'a'.toNat + 10)
      else if 'A' ≤ x ∧ x ≤ 'F' then some (x.toNat - 'A'.toNat + 10)
      else none
    return ((((← digit a) * 16 + (← digit b)) * 16 + (← digit c)) * 16 + (← digit d), rest)
  | _ => none

/-- The character of a `\u` escape after its `u`; two escapes make one character beyond the first
plane. -/
def readUnicodeEscape (cs : List Char) : Option (Char × List Char) := do
  let (a, rest) ← hex4 cs
  if 0xDC00 ≤ a ∧ a ≤ 0xDFFF then none
  if 0xD800 ≤ a ∧ a ≤ 0xDBFF then
    let rest ← expect ['\\', 'u'] rest
    let (b, rest) ← hex4 rest
    if b < 0xDC00 ∨ 0xDFFF < b then none
    return (Char.ofNat (0x10000 + (a - 0xD800) * 1024 + (b - 0xDC00)), rest)
  return (Char.ofNat a, rest)

def readEscape : List Char → Option (Char × List Char)
  | '"' :: r => some ('"', r)
  | '\\' :: r => some ('\\', r)
  | '/' :: r => some ('/', r)
  | 'b' :: r => some (Char.ofNat 8, r)
  | 'f' :: r => some (Char.ofNat 12, r)
  | 'n' :: r => some ('\n', r)
  | 'r' :: r => some ('\r', r)
  | 't' :: r => some ('\t', r)
  | 'u' :: r => readUnicodeEscape r
  | _ => none

/-- The characters of a string after its opening quote, put in front of `acc` in reverse. -/
def readStringFrom : (fuel : Nat) → (acc : List Char) → List Char → Option (String × List Char)
  | 0, _, _ => none
  | fuel + 1, acc, cs =>
    match cs with
    | [] => none
    | '"' :: rest => some (String.ofList acc.reverse, rest)
    | '\\' :: rest =>
      match readEscape rest with
      | none => none
      | some (c, rest) => readStringFrom fuel (c :: acc) rest
    | c :: rest => if c.toNat < 0x20 then none else readStringFrom fuel (c :: acc) rest

def readString (fuel : Nat) (cs : List Char) : Option (String × List Char) :=
  readStringFrom fuel [] cs

mutual

/-- A value that may hold `depth` further levels, with `fuel` steps to read it. -/
def readValue : (fuel depth : Nat) → List Char → Option (Json × List Char)
  | 0, _, _ => none
  | fuel + 1, depth, cs =>
    match skipSpace cs with
    | [] => none
    | c :: rest =>
      if c = '"' then (readString fuel rest).map fun (s, r) => (.str s, r)
      else if c = '[' then
        match depth with
        | 0 => none
        | depth + 1 =>
          match skipSpace rest with
          | ']' :: r => some (.arr [], r)
          | r => readItems fuel depth [] r
      else if c = '\x7b' then
        match depth with
        | 0 => none
        | depth + 1 =>
          match skipSpace rest with
          | '\x7d' :: r => some (.obj [], r)
          | r => readMembers fuel depth [] r
      else if c = '-' then readUnsigned true rest
      else if c.isDigit then readUnsigned false (c :: rest)
      else if c = 'n' then (expect ['u', 'l', 'l'] rest).map (Json.null, ·)
      else if c = 't' then (expect ['r', 'u', 'e'] rest).map (Json.bool true, ·)
      else if c = 'f' then (expect ['a', 'l', 's', 'e'] rest).map (Json.bool false, ·)
      else none

/-- The items of an array up to its closing bracket, those before them in reverse. -/
def readItems : (fuel depth : Nat) → (acc : List Json) → List Char → Option (Json × List Char)
  | 0, _, _, _ => none
  | fuel + 1, depth, acc, cs =>
    match readValue fuel depth cs with
    | none => none
    | some (v, rest) =>
      match skipSpace rest with
      | ',' :: r => readItems fuel depth (v :: acc) r
      | ']' :: r => some (.arr (v :: acc).reverse, r)
      | _ => none

def readMembers :
    (fuel depth : Nat) → (acc : List (String × Json)) → List Char → Option (Json × List Char)
  | 0, _, _, _ => none
  | fuel + 1, depth, acc, cs =>
    match skipSpace cs with
    | '"' :: r =>
      match readString fuel r with
      | none => none
      | some (k, r) =>
        match skipSpace r with
        | ':' :: r =>
          match readValue fuel depth r with
          | none => none
          | some (v, rest) =>
            match skipSpace rest with
            | ',' :: r => readMembers fuel depth ((k, v) :: acc) r
            | '\x7d' :: r => some (.object ((k, v) :: acc).reverse, r)
            | _ => none
        | _ => none
    | _ => none

end

def maxDepth : Nat := 127

def parse? (text : List Char) : Option Json :=
  match readValue (2 * text.length + 2) maxDepth text with
  | some (v, rest) => if (skipSpace rest).isEmpty then some v else none
  | none => none

end ClusterSurvey.Json
