import ClusterSurvey.Bytes.Utf8

/-!
The characters of a YAML stream. A byte order mark at the front tells how they are encoded and is no
part of the text; without a mark they are UTF-8.
-/
namespace ClusterSurvey.Yaml

inductive ByteOrder where
  | big
  | little

def ByteOrder.unit (order : ByteOrder) (first second : UInt8) : Nat :=
  match order with
  | .big => first.toNat * 256 + second.toNat
  | .little => second.toNat * 256 + first.toNat

def ByteOrder.units? (order : ByteOrder) : Bytes → Option (List Nat)
  | [] => some []
  | [_] => none
  | a :: b :: rest => (order.units? rest).map (order.unit a b :: ·)

/-- The characters of 16-bit units. Two surrogates, the high one first, make one character; neither
may stand alone. -/
def charsOfUnits? : List Nat → Option (List Char)
  | [] => some []
  | u :: rest =>
    if 0xDC00 ≤ u ∧ u ≤ 0xDFFF then none
    else if 0xD800 ≤ u ∧ u ≤ 0xDBFF then
      match rest with
      | [] => none
      | v :: rest =>
        if 0xDC00 ≤ v ∧ v ≤ 0xDFFF then
          (charsOfUnits? rest).map (Char.ofNat (0x10000 + (u - 0xD800) * 0x400 + (v - 0xDC00)) :: ·)
        else none
    else (charsOfUnits? rest).map (Char.ofNat u :: ·)

def charsOf? : Bytes → Option (List Char)
  | 0xFF :: 0xFE :: rest => (ByteOrder.little.units? rest).bind charsOfUnits?
  | 0xFE :: 0xFF :: rest => (ByteOrder.big.units? rest).bind charsOfUnits?
  | 0xEF :: 0xBB :: 0xBF :: rest => Utf8.decode? rest
  | bs => Utf8.decode? bs

end ClusterSurvey.Yaml
