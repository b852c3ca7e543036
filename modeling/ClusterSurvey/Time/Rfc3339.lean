import ClusterSurvey.Time.Instant

/-!
Date and time texts in the form of RFC 3339. Reading takes any number of fraction digits, of which
nine count, a second of 60 as a leap second, and offsets below a full day. Writing is in UTC, with
the fraction in groups of three digits and a sign before years of more than four digits.
-/
namespace ClusterSurvey.Rfc3339

def number (n : Nat) (cs : List Char) : Option (Nat × List Char) :=
  let ds := cs.take n
  if ds.length = n ∧ ds.all Char.isDigit then some (Nat.ofDigitChars 10 ds 0, cs.drop n)
  else none

def oneOf (allowed : List Char) : List Char → Option (List Char)
  | c :: rest => if c ∈ allowed then some rest else none
  | [] => none

def fraction (cs : List Char) : Option (Nat × List Char) :=
  match cs with
  | '.' :: rest =>
    let ds := rest.takeWhile Char.isDigit
    if ds.isEmpty then none
    else
      let nine := ds.take 9
      some (Nat.ofDigitChars 10 nine 0 * Nat.pow 10 (9 - nine.length), rest.drop ds.length)
  | _ => some (0, cs)

/-- Reads the offset from UTC in seconds: `Z`, or a sign, hours and minutes below 60. -/
def offset (cs : List Char) : Option (Int × List Char) :=
  match cs with
  | [] => none
  | c :: rest =>
    if c = 'Z' ∨ c = 'z' then some (0, rest)
    else do
      let sign : Int ← if c = '+' then some 1 else if c = '-' ∨ c = '−' then some (-1) else none
      let (h, rest) ← number 2 rest
      let rest ← oneOf [':'] rest
      let (m, rest) ← number 2 rest
      if 60 ≤ m then none
      return (sign * (h * 3600 + m * 60), rest)

def parse? (cs : List Char) : Option Instant := do
  let (year, cs) ← number 4 cs
  let cs ← oneOf ['-'] cs
  let (month, cs) ← number 2 cs
  let cs ← oneOf ['-'] cs
  let (day, cs) ← number 2 cs
  let cs ← oneOf ['T', 't', ' '] cs
  let (hour, cs) ← number 2 cs
  let cs ← oneOf [':'] cs
  let (minute, cs) ← number 2 cs
  let cs ← oneOf [':'] cs
  let (second, cs) ← number 2 cs
  let (nano, cs) ← fraction cs
  let (shift, cs) ← offset cs
  if cs ≠ [] then none
  if 24 ≤ hour ∨ 60 ≤ minute ∨ 61 ≤ second ∨ 86400 ≤ shift.natAbs then none
  let date ← Date.of? year month day
  let ofDay : Int := hour * 3600 + minute * 60 + min second 59
  let leap := if second = 60 then Instant.nanosPerSecond else 0
  return ⟨date.toDays * Instant.secondsPerDay + ofDay - shift, nano + leap⟩

def padded (n k : Nat) : List Char :=
  let ds := Nat.toDigits 10 k
  List.replicate (n - ds.length) '0' ++ ds

def year (y : Int) : List Char :=
  if 0 ≤ y ∧ y ≤ 9999 then padded 4 y.toNat
  else (if y < 0 then '-' else '+') :: padded 4 y.natAbs

structure Clock where
  date : Date
  hour : Nat
  minute : Nat
  second : Nat
  nano : Nat

def clock (t : Instant) : Clock :=
  let s := t.secondOfDay
  { date := Date.ofDays t.day
    hour := s / 3600
    minute := s / 60 % 60
    second := s % 60 + t.nano / Instant.nanosPerSecond
    nano := t.nano % Instant.nanosPerSecond }

/-- The fraction with three, six or nine digits, whichever is the least that is exact; none for
zero. -/
def fractionText (nano : Nat) : List Char :=
  if nano = 0 then []
  else if nano % 1000000 = 0 then '.' :: padded 3 (nano / 1000000)
  else if nano % 1000 = 0 then '.' :: padded 6 (nano / 1000)
  else '.' :: padded 9 nano

def secondsText (t : Instant) : List Char :=
  let c := clock t
  year c.date.year ++ '-' :: padded 2 c.date.month ++ '-' :: padded 2 c.date.day
    ++ 'T' :: padded 2 c.hour
    ++ ':' :: padded 2 c.minute ++ ':' :: padded 2 c.second

def render (t : Instant) : String := String.ofList (secondsText t ++ ['Z'])

def renderFraction (t : Instant) : String :=
  String.ofList (secondsText t ++ fractionText (clock t).nano ++ ['Z'])

def renderOffset (t : Instant) : String :=
  String.ofList (secondsText t ++ fractionText (clock t).nano ++ ['+', '0', '0', ':', '0', '0'])

end ClusterSurvey.Rfc3339
