import ClusterSurvey.Digest.Sha2

/-!
The SHA-1 digest, which old certificate requests are signed with. It differs from the later digests
in its five words of state and in its four kinds of rounds.
-/
namespace ClusterSurvey.Digest.Sha1

structure State where
  a : UInt32
  b : UInt32
  c : UInt32
  d : UInt32
  e : UInt32

def start : State := ⟨0x67452301, 0xefcdab89, 0x98badcfe, 0x10325476, 0xc3d2e1f0⟩

def rotate (x : UInt32) (n : UInt32) : UInt32 := (x <<< n) ||| (x >>> (32 - n))

/-- Adds `n` words to a schedule whose words stand in reverse order. -/
def extend : (n : Nat) → List UInt32 → List UInt32
  | 0, w => w
  | n + 1, w =>
    extend n (rotate (w.getD 2 0 ^^^ w.getD 7 0 ^^^ w.getD 13 0 ^^^ w.getD 15 0) 1 :: w)

def kind (i : Nat) (b c d : UInt32) : UInt32 × UInt32 :=
  if i < 20 then ((b &&& c) ||| (~~~ b &&& d), 0x5a827999)
  else if i < 40 then (b ^^^ c ^^^ d, 0x6ed9eba1)
  else if i < 60 then ((b &&& c) ||| (b &&& d) ||| (c &&& d), 0x8f1bbcdc)
  else (b ^^^ c ^^^ d, 0xca62c1d6)

def round (s : State) (wi : UInt32 × Nat) : State :=
  let (f, k) := kind wi.2 s.b s.c s.d
  ⟨rotate s.a 5 + f + s.e + k + wi.1, s.a, rotate s.b 30, s.c, s.d⟩

def compress (s : State) (block : Bytes) : State :=
  let words := (pieces 4 16 block).map fun p => UInt32.ofNat (Bytes.toNat p)
  let t := ((extend 64 words.reverse).reverse.zipIdx).foldl round s
  ⟨s.a + t.a, s.b + t.b, s.c + t.c, s.d + t.d, s.e + t.e⟩

def hash (message : Bytes) : Bytes :=
  let m := padded 64 8 message
  let s := (pieces 64 (m.length / 64) m).foldl compress start
  [s.a, s.b, s.c, s.d, s.e].flatMap fun w => Bytes.ofNat 4 w.toNat

end ClusterSurvey.Digest.Sha1
