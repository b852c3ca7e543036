import ClusterSurvey.Bytes.Basic

/-!
Hexadecimal text of byte strings: two lower case digits per byte, high half first.
-/
namespace ClusterSurvey.Hex

def digit (n : Nat) : Char := "0123456789abcdef".toList.getD (n % 16) '0'

def byte (b : UInt8) : List Char := [digit (b.toNat / 16), digit b.toNat]

def encode (bs : Bytes) : String := String.ofList (bs.flatMap byte)

def value? (c : Char) : Option Nat :=
  if '0' ≤ c ∧ c ≤ '9' then some (c.toNat - '0'.toNat)
  else if 'a' ≤ c ∧ c ≤ 'f' then some (c.toNat - 'a'.toNat + 10)
  else if 'A' ≤ c ∧ c ≤ 'F' then some (c.toNat - 'A'.toNat + 10)
  else none

/-- The number that digits of a base below 17 write; nothing if there are others. -/
def number? (base : Nat) (ds : List Char) : Option Nat :=
  ds.foldlM (fun n c => (value? c).bind fun d => if d < base then some (n * base + d) else none) 0

end ClusterSurvey.Hex
