import ClusterSurvey.Certificate.Extension
import ClusterSurvey.Certificate.Key

/-!
Certificate requests: a subject, a public key, attributes, and a signature over them by the owner of
the key.
-/
namespace ClusterSurvey.Certificate

structure Request where
  subject : Name
  key : PublicKey
  /-- The extensions of the first attribute that asks for extensions. -/
  extensions : List Extension
  /-- The bytes that are signed. -/
  signed : Bytes
  algorithm : Algorithm
  signature : Bytes
  deriving DecidableEq

def extensionRequestId : Bytes := Der.encodeId [1, 2, 840, 113549, 1, 9, 14]

def readRequestAttribute (bs : Bytes) : Option (Option (List Extension) × Bytes) := do
  let (content, rest) ← Der.sequence bs
  let (id, content) ← Der.objectId content
  let (values, _) ← Der.readTagged Der.setTag content
  if id = extensionRequestId then
    let (extensions, _) ← readExtensions values
    return (some extensions, rest)
  return (none, rest)

def requestAttributes? : (fuel : Nat) → Bytes → Option (List (Option (List Extension)))
  | 0, bs => if bs.isEmpty then some [] else none
  | fuel + 1, bs =>
    if bs.isEmpty then some []
    else do
      let (a, rest) ← readRequestAttribute bs
      let as ← requestAttributes? fuel rest
      return a :: as

def Request.ofDer? (bs : Bytes) : Option Request := do
  let (content, _) ← Der.sequence bs
  let (info, afterInfo) ← Der.sequence content
  let signed := content.take (content.length - afterInfo.length)
  let (version, info) ← Der.readTagged Der.integerTag info
  if version.isEmpty ∨ 5 < version.length then none
  let (subject, info) ← readName info
  let (key, info) ← readPublicKey info
  let (attributes, _) ← Der.read info
  let found ← requestAttributes? attributes.content.length attributes.content
  let (algorithm, rest) ← readAlgorithm afterInfo
  let (signature, _) ← Der.bitString rest
  return { subject, key, extensions := (found.findSome? id).getD [], signed, algorithm, signature }

def Request.alternativeNames (r : Request) : List GeneralName :=
  r.extensions.flatMap fun x => x.alternativeNames?.getD []

end ClusterSurvey.Certificate
