import ClusterSurvey.Digest.Sha2
import ClusterSurvey.Signature.Modular

/-!
Signatures with the twisted Edwards curve of 255 bits. A point is written as its second coordinate,
least byte first, with the parity of the first one in the top bit; a signature is a point and a
number below the order.
-/
namespace ClusterSurvey.Ed25519

def p : Nat := Nat.pow 2 255 - 19

def order : Nat := Nat.pow 2 252 + 27742317777372353535851937790883648493

def d : Nat := 37095705934669439343138083508754565189542113879843219016388785533085940283555

/-- A point as two fractions over one denominator. -/
structure Point where
  x : Nat
  y : Nat
  z : Nat

def base : Point :=
  ⟨15112221349535400772501151409588531511454012693041857206046113283949847762202,
    46316835694926478169428394003475163141307993866256225615783033603165251855960, 1⟩

def neutral : Point := ⟨0, 1, 1⟩

def add (s t : Point) : Point :=
  let a := s.z * t.z % p
  let b := a * a % p
  let c := s.x * t.x % p
  let e := s.y * t.y % p
  let g := d * (c * e % p) % p
  let f := Modular.sub p b g
  let h := (b + g) % p
  let cross := Modular.sub p ((s.x + s.y) * (t.x + t.y)) (c + e)
  ⟨a * f % p * cross % p, a * h % p * (e + c) % p, f * h % p⟩

def mulFrom : (fuel : Nat) → (k : Nat) → (q acc : Point) → Point
  | 0, _, _, acc => acc
  | fuel + 1, k, q, acc =>
    if k = 0 then acc else mulFrom fuel (k / 2) (add q q) (if k % 2 = 1 then add acc q else acc)

def mul (k : Nat) (q : Point) : Point := mulFrom (Nat.log2 k + 1) k q neutral

def littleEndian (bs : Bytes) : Nat := Bytes.toNat bs.reverse

def sqrt? (a : Nat) : Option Nat :=
  let r := Modular.pow p a ((p + 3) / 8)
  let s := r * Modular.pow p 2 ((p - 1) / 4) % p
  if r * r % p = a % p then some r else if s * s % p = a % p then some s else none

def point? (bs : Bytes) : Option Point := do
  if bs.length ≠ 32 then none
  let n := littleEndian bs
  let y := n % Nat.pow 2 255 % p
  let odd := n / Nat.pow 2 255
  let square := Modular.sub p (y * y) 1 * Modular.inverse p ((d * y % p * y + 1) % p) % p
  let x ← sqrt? square
  return ⟨if x % 2 = odd then x else (p - x) % p, y, 1⟩

def encode (q : Point) : Bytes :=
  let w := Modular.inverse p q.z
  let x := q.x * w % p
  let y := q.y * w % p
  (Bytes.ofNat 32 (y + (x % 2) * Nat.pow 2 255)).reverse

def verify (key message signature : Bytes) : Bool :=
  match point? key with
  | none => false
  | some a =>
    let r := signature.take 32
    let s := littleEndian (signature.drop 32)
    let h := littleEndian (Digest.Sha512.hash (r ++ key ++ message)) % order
    let minus : Point := ⟨(p - a.x) % p, a.y, a.z⟩
    signature.length == 64 && s < order && encode (add (mul s base) (mul h minus)) == r

end ClusterSurvey.Ed25519
