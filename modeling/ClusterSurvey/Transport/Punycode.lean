/-!
Texts written with the characters of host names: first the characters that are ASCII, then, as
digits of mixed value, the others with their places. The digits adapt to the distances that were met
before.
-/
namespace ClusterSurvey.Punycode

def digit (n : Nat) : Char := if n < 26 then Char.ofNat (0x61 + n) else Char.ofNat (0x30 + n - 26)

def threshold (place bias : Nat) : Nat :=
  if place ≤ bias then 1 else if bias + 26 ≤ place then 26 else place - bias

theorem one_le_threshold (place bias : Nat) : 1 ≤ threshold place bias := by
  unfold threshold
  split
  · omega
  · split <;> omega

def digits (bias place n : Nat) : List Char :=
  let t := threshold place bias
  if n < t then [digit n]
  else digit (t + (n - t) % (36 - t)) :: digits bias (place + 36) ((n - t) / (36 - t))
termination_by n
decreasing_by
  have := one_le_threshold place bias
  exact Nat.lt_of_le_of_lt (Nat.div_le_self _ _) (by omega)

/-- Divides a distance until it is small, and counts 36 for each time. -/
def shrink (distance count : Nat) : Nat × Nat :=
  if 455 < distance then shrink (distance / 35) (count + 36) else (distance, count)
termination_by distance
decreasing_by exact Nat.div_lt_self (by omega) (by omega)

def adapt (distance handled : Nat) (first : Bool) : Nat :=
  let d := if first then distance / 700 else distance / 2
  let (d, count) := shrink (d + d / handled) 0
  count + 36 * d / (d + 38)

/-- A text on its way: the digits so far, the distance from the last character, the bias, and how
many characters were handled. -/
structure State where
  written : List Char
  distance : Nat
  bias : Nat
  handled : Nat

def pass (basic code : Nat) (s : State) (c : Char) : State :=
  if c.toNat < code then { s with distance := s.distance + 1 }
  else if c.toNat = code then
    { written := s.written ++ digits s.bias 36 s.distance
      distance := 0
      bias := adapt s.distance (s.handled + 1) (s.handled == basic)
      handled := s.handled + 1 }
  else s

def writeCodes (text : List Char) (basic : Nat) : (last : Nat) → List Nat → State → State
  | _, [], s => s
  | last, code :: rest, s =>
    let s := { s with distance := s.distance + (code - last) * (s.handled + 1) }
    let s := text.foldl (pass basic code) s
    writeCodes text basic (code + 1) rest { s with distance := s.distance + 1 }

def codes (text : List Char) : List Nat :=
  (((text.map Char.toNat).filter (128 ≤ ·)).mergeSort).eraseDups

def encode (text : List Char) : List Char :=
  let plain := text.filter (·.toNat < 128)
  let start := if plain.isEmpty then [] else plain ++ ['-']
  (writeCodes text plain.length 128 (codes text) ⟨start, 0, 72, plain.length⟩).written

end ClusterSurvey.Punycode
