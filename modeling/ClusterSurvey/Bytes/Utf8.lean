import ClusterSurvey.Bytes.Basic

/-!
Reading UTF-8. `decode?` accepts well-formed text only; `decodeLossy` writes U+FFFD for each maximal
ill-formed part, that is for the longest beginning of a sequence that a next byte could still have
continued. Both run the same machine, whose state is the rest that a lead byte has announced.
-/
namespace ClusterSurvey.Utf8

/-- What the machine waits for: a new character, or `more + 1` continuation bytes of a sequence of
which `high` is read so far, the next of them between `low` and `top`. -/
inductive State where
  | ready
  | pending (more : Nat) (high : Nat) (low top : UInt8)

inductive Lead where
  | single (c : Char)
  | opens (s : State)
  | invalid

def lead (b : UInt8) : Lead :=
  if b < 0x80 then .single (Char.ofNat b.toNat)
  else if b < 0xC2 then .invalid
  else if b < 0xE0 then .opens (.pending 0 (b.toNat - 0xC0) 0x80 0xBF)
  else if b == 0xE0 then .opens (.pending 1 0 0xA0 0xBF)
  else if b == 0xED then .opens (.pending 1 0xD 0x80 0x9F)
  else if b < 0xF0 then .opens (.pending 1 (b.toNat - 0xE0) 0x80 0xBF)
  else if b == 0xF0 then .opens (.pending 2 0 0x90 0xBF)
  else if b < 0xF4 then .opens (.pending 2 (b.toNat - 0xF0) 0x80 0xBF)
  else if b == 0xF4 then .opens (.pending 2 4 0x80 0x8F)
  else .invalid

def replacement : Char := Char.ofNat 0xFFFD

/-- The characters of a byte string, read from state `s`; `none` stands for an ill-formed part. -/
def scan : State → Bytes → List (Option Char)
  | .ready, [] => []
  | .pending .., [] => [none]
  | .ready, b :: bs =>
    match lead b with
    | .single c => some c :: scan .ready bs
    | .opens s => scan s bs
    | .invalid => none :: scan .ready bs
  | .pending more high low top, b :: bs =>
    if low ≤ b ∧ b ≤ top then
      match more with
      | 0 => some (Char.ofNat (high * 64 + (b.toNat - 0x80))) :: scan .ready bs
      | more + 1 => scan (.pending more (high * 64 + (b.toNat - 0x80)) 0x80 0xBF) bs
    else
      match lead b with
      | .single c => none :: some c :: scan .ready bs
      | .opens s => none :: scan s bs
      | .invalid => none :: none :: scan .ready bs

/-- The characters of a byte string with U+FFFD for each maximal ill-formed part. -/
def decodeLossy (bs : Bytes) : List Char := (scan .ready bs).map (·.getD replacement)

def decode? (bs : Bytes) : Option (List Char) := (scan .ready bs).mapM id

def textLossy (bs : Bytes) : String := String.ofList (decodeLossy bs)

def text? (bs : Bytes) : Option String := (decode? bs).map String.ofList

end ClusterSurvey.Utf8
