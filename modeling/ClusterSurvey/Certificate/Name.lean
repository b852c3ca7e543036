import ClusterSurvey.Certificate.Der
import ClusterSurvey.Bytes.Utf8

/-!
Distinguished names. A name is read as far as its parts can be read; what follows a part that is no
set of attributes is left out.
-/
namespace ClusterSurvey.Certificate

structure Attribute where
  type : Bytes
  tag : Nat
  value : Bytes
  deriving DecidableEq

/-- The attributes of a name, those of one part after those of the part before. -/
abbrev Name := List Attribute

/-- The text of a value whose type is a UTF-8, printable, numeric or ASCII string. -/
def Attribute.text? (a : Attribute) : Option String :=
  if a.tag = Der.utf8Tag ∨ a.tag = Der.printableTag ∨ a.tag = Der.numericTag ∨
      a.tag = Der.ia5Tag then
    Utf8.text? a.value
  else none

def readAttribute (bs : Bytes) : Option (Attribute × Bytes) := do
  let (content, rest) ← Der.sequence bs
  let (type, content) ← Der.objectId content
  let (value, _) ← Der.read content
  return (⟨type, value.tag, value.content⟩, rest)

def readPart (bs : Bytes) : Option (List Attribute × Bytes) := do
  let (content, rest) ← Der.readTagged Der.setTag bs
  let (attributes, _) := Der.many readAttribute content.length content
  if attributes.isEmpty then none
  return (attributes, rest)

def readName (bs : Bytes) : Option (Name × Bytes) := do
  let (content, rest) ← Der.sequence bs
  let (parts, _) := Der.many readPart content.length content
  return (parts.flatten, rest)

end ClusterSurvey.Certificate
