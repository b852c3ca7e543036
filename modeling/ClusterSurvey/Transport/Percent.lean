import ClusterSurvey.Bytes.Basic
import ClusterSurvey.Bytes.Hex

/-!
Percent encoding of the parts of addresses. Each part has its own set of characters that are
escaped; control characters and all that is not ASCII are in every one of them. Escaped is each byte
of the UTF-8 form.
-/
namespace ClusterSurvey.Percent

def byte (b : UInt8) : List Char := '%' :: (Hex.byte b).map Char.toUpper

def encode (escaped : Char → Bool) (cs : List Char) : List Char :=
  cs.flatMap fun c => if escaped c then (String.utf8EncodeChar c).flatMap byte else [c]

/-- The bytes that a text stands for. A percent sign without two digits stands for itself. -/
def decode : List Char → Bytes
  | [] => []
  | '%' :: h :: l :: cs =>
    match Hex.value? h, Hex.value? l with
    | some a, some b => UInt8.ofNat (a * 16 + b) :: decode cs
    | _, _ => 37 :: decode (h :: l :: cs)
  | c :: cs => String.utf8EncodeChar c ++ decode cs

def isControl (c : Char) : Bool := c.toNat < 0x20 || 0x7F ≤ c.toNat

def inFragment (c : Char) : Bool := isControl c || [' ', '"', '<', '>', '\x60'].contains c

def inPath (c : Char) : Bool := inFragment c || ['#', '?', '\x7b', '\x7d'].contains c

def inQuery (c : Char) : Bool := isControl c || [' ', '"', '#', '<', '>', '\''].contains c

def plainInForm (c : Char) : Bool :=
  ('0' ≤ c && c ≤ '9') || ('A' ≤ c && c ≤ 'Z') || ('a' ≤ c && c ≤ 'z')
    || ['*', '-', '.', '_'].contains c

def formText (s : String) : List Char :=
  s.toList.flatMap fun c => if c = ' ' then ['+'] else encode (!plainInForm ·) [c]

def form (pairs : List (String × String)) : List Char :=
  ['&'].intercalate (pairs.map fun (k, v) => formText k ++ '=' :: formText v)

end ClusterSurvey.Percent
