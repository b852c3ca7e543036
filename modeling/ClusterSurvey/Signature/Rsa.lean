import ClusterSurvey.Certificate.Der
import ClusterSurvey.Signature.Ecdsa
import ClusterSurvey.Signature.Modular

/-!
RSA signatures with the padding of PKCS #1 version 1.5. The key has an odd modulus of a least number
of bits and an odd exponent of at least 3, the signature has the length of the modulus.
-/
namespace ClusterSurvey.Rsa

structure Key where
  modulus : Nat
  exponent : Nat

def key? (bs : Bytes) : Option Key := do
  let (content, rest) ← Der.sequence bs
  let (modulus, content) ← Ecdsa.positive? content
  let (exponent, content) ← Ecdsa.positive? content
  if rest ≠ [] ∨ content ≠ [] then none
  return ⟨modulus, exponent⟩

structure Digest where
  id : List Nat
  size : Nat

def sha1 : Digest := ⟨[1, 3, 14, 3, 2, 26], 20⟩
def sha256 : Digest := ⟨[2, 16, 840, 1, 101, 3, 4, 2, 1], 32⟩
def sha384 : Digest := ⟨[2, 16, 840, 1, 101, 3, 4, 2, 2], 48⟩
def sha512 : Digest := ⟨[2, 16, 840, 1, 101, 3, 4, 2, 3], 64⟩

def element (tag : UInt8) (content : Bytes) : Bytes := tag :: UInt8.ofNat content.length :: content

def Digest.info (d : Digest) (digest : Bytes) : Bytes :=
  element 0x30 (element 0x30 (element 6 (Der.encodeId d.id) ++ [5, 0]) ++ element 4 digest)

def padded (len : Nat) (info : Bytes) : Bytes :=
  0 :: 1 :: List.replicate (len - 3 - info.length) 0xFF ++ 0 :: info

/-- Whether a signature over a digest belongs to a key of at least `leastBits` bits. -/
def verify (d : Digest) (leastBits : Nat) (key digest signature : Bytes) : Bool :=
  match key? key with
  | none => false
  | some k =>
    let bits := Nat.log2 k.modulus + 1
    let len := (bits + 7) / 8
    let s := Bytes.toNat signature
    k.modulus % 2 == 1 && leastBits ≤ 8 * len && bits ≤ 8192 && k.exponent % 2 == 1
      && 3 ≤ k.exponent
      && k.exponent < 8589934592 && signature.length == len && s < k.modulus
      && Bytes.ofNat len (Modular.pow k.modulus s k.exponent) == padded len (d.info digest)

end ClusterSurvey.Rsa
