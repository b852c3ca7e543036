/-!
Byte strings as lists, the form in which records, logs and certificates are held. A text becomes
bytes through UTF-8, and a big-endian byte string is read as a natural number.
-/
namespace ClusterSurvey

abbrev Bytes := List UInt8

namespace Bytes

def ofChars (cs : List Char) : Bytes := cs.flatMap String.utf8EncodeChar

def ofString (s : String) : Bytes := ofChars s.toList

/-- The number written by the bytes, most significant byte first. -/
def toNat (bs : Bytes) : Nat := bs.foldl (fun n b => n * 256 + b.toNat) 0

def ofNat : (len : Nat) → (n : Nat) → Bytes
  | 0, _ => []
  | len + 1, n => ofNat len (n / 256) ++ [UInt8.ofNat (n % 256)]

def startsWith (bs part : Bytes) : Bool := part.isPrefixOf bs

theorem ofChars_append (a b : List Char) : ofChars (a ++ b) = ofChars a ++ ofChars b := by
  simp [ofChars]

end Bytes

end ClusterSurvey
