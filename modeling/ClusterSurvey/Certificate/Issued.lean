import ClusterSurvey.Certificate.Extension
import ClusterSurvey.Certificate.Key
import ClusterSurvey.Certificate.Validity

/-!
Issued certificates. The whole structure has to be well-formed, though only names and times are
kept: no chain of trust is looked at, and the signature is not verified.
-/
namespace ClusterSurvey.Certificate

structure Issued where
  issuer : Name
  subject : Name
  validity : Validity
  deriving DecidableEq

def skipVersion (bs : Bytes) : Option Bytes := do
  let (e, rest) ← Der.read bs
  if e.tag = 0 then
    let (v, _) ← Der.readTagged Der.integerTag e.content
    if v.isEmpty ∨ 5 < v.length then none
    return rest
  return bs

/-- Skips an element with the given context specific tag, if it is there. -/
def skipOptional (tag : Nat) (bs : Bytes) : Bytes :=
  match Der.read bs with
  | some (e, rest) => if e.cls = 2 ∧ e.tag = tag then rest else bs
  | none => bs

def readSigned (bs : Bytes) : Option (Issued × Bytes) := do
  let (content, rest) ← Der.sequence bs
  let content ← skipVersion content
  let (_, content) ← Der.readTagged Der.integerTag content
  let (_, content) ← readAlgorithm content
  let (issuer, content) ← readName content
  let (validity, content) ← readValidity content
  let (subject, content) ← readName content
  let (_, content) ← readPublicKey content
  let content := skipOptional 2 (skipOptional 1 content)
  if content ≠ [] then
    let (e, _) ← Der.read content
    if e.tag ≠ 3 then none
    let _ ← readExtensions e.content
  return (⟨issuer, subject, validity⟩, rest)

def Issued.ofDer? (bs : Bytes) : Option Issued := do
  let (content, _) ← Der.sequence bs
  let (issued, content) ← readSigned content
  let (_, content) ← readAlgorithm content
  let _ ← Der.bitString content
  return issued

end ClusterSurvey.Certificate
