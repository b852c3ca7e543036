import ClusterSurvey.Certificate.Der

/-!
Algorithm identifiers and public keys, as certificates and certificate requests hold them.
-/
namespace ClusterSurvey.Certificate

structure Algorithm where
  id : Bytes
  parameters : Option Der.Element
  deriving DecidableEq

structure PublicKey where
  algorithm : Algorithm
  key : Bytes
  deriving DecidableEq

def readAlgorithm (bs : Bytes) : Option (Algorithm × Bytes) := do
  let (content, rest) ← Der.sequence bs
  let (id, content) ← Der.objectId content
  if content.isEmpty then
    return (⟨id, none⟩, rest)
  let (parameters, _) ← Der.read content
  return (⟨id, some parameters⟩, rest)

def readPublicKey (bs : Bytes) : Option (PublicKey × Bytes) := do
  let (content, rest) ← Der.sequence bs
  let (algorithm, content) ← readAlgorithm content
  let (key, _) ← Der.bitString content
  return (⟨algorithm, key⟩, rest)

end ClusterSurvey.Certificate
