import ClusterSurvey.Certificate.Request
import ClusterSurvey.Digest.Sha1
import ClusterSurvey.Signature.Ecdsa
import ClusterSurvey.Signature.Ed25519
import ClusterSurvey.Signature.Rsa

/-!
Which signatures of certificate requests count: RSA with SHA-1 and keys of at least 1024 bits, RSA
with the SHA-2 digests and keys of at least 2048 bits, ECDSA with SHA-256 or SHA-384 on the curves
P-256 and P-384, and Ed25519. Any other algorithm counts as not verified.
-/
namespace ClusterSurvey.Certificate

inductive Scheme where
  | rsa (digest : Rsa.Digest) (leastBits : Nat)
  | ecdsa (curve : Ecdsa.Curve) (long : Bool)
  | ed25519

def curve? (a : Algorithm) : Option Ecdsa.Curve :=
  match a.parameters with
  | some e =>
    if e.tag ≠ Der.objectIdTag then none
    else if e.content = Der.encodeId [1, 2, 840, 10045, 3, 1, 7] then some Ecdsa.p256
    else if e.content = Der.encodeId [1, 3, 132, 0, 34] then some Ecdsa.p384
    else none
  | none => none

def scheme? (signature : Bytes) (key : Algorithm) : Option Scheme :=
  if signature = Der.encodeId [1, 2, 840, 113549, 1, 1, 5] then some (.rsa Rsa.sha1 1024)
  else if signature = Der.encodeId [1, 2, 840, 113549, 1, 1, 11] then some (.rsa Rsa.sha256 2048)
  else if signature = Der.encodeId [1, 2, 840, 113549, 1, 1, 12] then some (.rsa Rsa.sha384 2048)
  else if signature = Der.encodeId [1, 2, 840, 113549, 1, 1, 13] then some (.rsa Rsa.sha512 2048)
  else if signature = Der.encodeId [1, 2, 840, 10045, 4, 3, 2] then
    (curve? key).map (.ecdsa · false)
  else if signature = Der.encodeId [1, 2, 840, 10045, 4, 3, 3] then (curve? key).map (.ecdsa · true)
  else if signature = Der.encodeId [1, 3, 101, 112] then some .ed25519
  else none

def digest (size : Nat) (message : Bytes) : Bytes :=
  match size with
  | 20 => Digest.Sha1.hash message
  | 32 => Digest.Sha256.hash message
  | 48 => Digest.Sha512.hash384 message
  | _ => Digest.Sha512.hash message

def Scheme.verify (s : Scheme) (key message signature : Bytes) : Bool :=
  match s with
  | .rsa d leastBits => Rsa.verify d leastBits key (digest d.size message) signature
  | .ecdsa c long => Ecdsa.verify c key (digest (if long then 48 else 32) message) signature
  | .ed25519 => Ed25519.verify key message signature

def Request.verified (r : Request) : Bool :=
  match scheme? r.algorithm.id r.key.algorithm with
  | some s => s.verify r.key.key r.signed r.signature
  | none => false

end ClusterSurvey.Certificate
