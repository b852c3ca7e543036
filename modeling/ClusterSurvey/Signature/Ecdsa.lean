import ClusterSurvey.Certificate.Der
import ClusterSurvey.Signature.Modular

/-!
Signatures with the elliptic curves P-256 and P-384. A key is an uncompressed point of the curve, a
signature a sequence of two numbers from 1 to below the order of the group.
-/
namespace ClusterSurvey.Ecdsa

/-- A curve `y² = x³ - 3x + b` over the integers modulo `p`, with a point of prime order `n`. -/
structure Curve where
  p : Nat
  b : Nat
  gx : Nat
  gy : Nat
  n : Nat
  /-- The length of a coordinate in bytes. -/
  width : Nat

def p256 : Curve where
  p := 0xffffffff00000001000000000000000000000000ffffffffffffffffffffffff
  b := 0x5ac635d8aa3a93e7b3ebbd55769886bc651d06b0cc53b0f63bce3c3e27d2604b
  gx := 0x6b17d1f2e12c4247f8bce6e563a440f277037d812deb33a0f4a13945d898c296
  gy := 0x4fe342e2fe1a7f9b8ee7eb4a7c0f9e162bce33576b315ececbb6406837bf51f5
  n := 0xffffffff00000000ffffffffffffffffbce6faada7179e84f3b9cac2fc632551
  width := 32

def p384 : Curve where
  p := 0xfffffffffffffffffffffffffffffffffffffffffffffffffffffffffffffffeffffffff0000000000000000ffffffff
  b := 0xb3312fa7e23ee7e4988e056be3f82d19181d9c6efe8141120314088f5013875ac656398d8a2ed19d2a85c8edd3ec2aef
  gx := 0xaa87ca22be8b05378eb1c71ef320ad746e1d3b628ba79b9859f741e082542a385502f25dbf55296c3a545e3872760ab7
  gy := 0x3617de4a96262c6f5d9e98bf9292dc29f8f41dbd289a147ce9da3113b5f0b8c00a60b1ce1d7e819d7a431d7c90ea0e5f
  n := 0xffffffffffffffffffffffffffffffffffffffffffffffffc7634d81f4372ddf581a0db248b0a77aecec196accc52973
  width := 48

abbrev Point := Option (Nat × Nat)

namespace Curve

def contains (c : Curve) (x y : Nat) : Bool :=
  x < c.p && y < c.p && y * y % c.p == (x * x * x + c.b + (c.p - 3) * x) % c.p

def chord (c : Curve) (s x1 y1 x2 : Nat) : Point :=
  let x := Modular.sub c.p (s * s) (x1 + x2)
  some (x, Modular.sub c.p (s * Modular.sub c.p x1 x) y1)

def add (c : Curve) : Point → Point → Point
  | none, q => q
  | p, none => p
  | some (x1, y1), some (x2, y2) =>
    if x1 = x2 then
      if (y1 + y2) % c.p = 0 then none
      else c.chord ((3 * x1 * x1 + c.p - 3) * Modular.inverse c.p (2 * y1) % c.p) x1 y1 x2
    else
      c.chord (Modular.sub c.p y2 y1 * Modular.inverse c.p (Modular.sub c.p x2 x1) % c.p) x1 y1 x2

/-- `acc + k · q`, by doubling; `fuel` bounds the binary digits of `k`. -/
def mulFrom (c : Curve) : (fuel : Nat) → (k : Nat) → (q acc : Point) → Point
  | 0, _, _, acc => acc
  | fuel + 1, k, q, acc =>
    if k = 0 then acc
    else c.mulFrom fuel (k / 2) (c.add q q) (if k % 2 = 1 then c.add acc q else acc)

def mul (c : Curve) (k : Nat) (q : Point) : Point := c.mulFrom (Nat.log2 k + 1) k q none

def point? (c : Curve) (key : Bytes) : Option (Nat × Nat) :=
  match key with
  | 4 :: rest =>
    let x := Bytes.toNat (rest.take c.width)
    let y := Bytes.toNat (rest.drop c.width)
    if rest.length = 2 * c.width ∧ c.contains x y then some (x, y) else none
  | _ => none

end Curve

def positive? (bs : Bytes) : Option (Nat × Bytes) := do
  let (content, rest) ← Der.readTagged Der.integerTag bs
  match content with
  | [] => none
  | 0 :: b :: _ => if b < 0x80 then none
  | b :: _ => if 0x80 ≤ b ∨ content = [0] then none
  return (Bytes.toNat content, rest)

def parts? (signature : Bytes) : Option (Nat × Nat) := do
  let (content, rest) ← Der.sequence signature
  let (r, content) ← positive? content
  let (s, content) ← positive? content
  if rest ≠ [] ∨ content ≠ [] then none
  return (r, s)

/-- The leading bits of a digest that fit a coordinate, as a number. -/
def truncated (c : Curve) (digest : Bytes) : Nat := Bytes.toNat (digest.take c.width)

def verify (c : Curve) (key digest signature : Bytes) : Bool :=
  match c.point? key, parts? signature with
  | some q, some (r, s) =>
    if r < c.n ∧ s < c.n then
      let w := Modular.inverse c.n s
      let u := truncated c digest * w % c.n
      let v := r * w % c.n
      match c.add (c.mul u (some (c.gx, c.gy))) (c.mul v (some q)) with
      | some (x, _) => x % c.n == r
      | none => false
    else false
  | _, _ => false

end ClusterSurvey.Ecdsa
