import ClusterSurvey.Certificate.Name

/-!
Extensions of certificates and requests. Only the alternative names of a subject are looked into;
when one of them cannot be read, none of that extension counts.
-/
namespace ClusterSurvey.Certificate

structure Extension where
  id : Bytes
  value : Bytes
  deriving DecidableEq

def alternativeNamesId : Bytes := Der.encodeId [2, 5, 29, 17]

inductive GeneralName where
  | email (text : String)
  | dns (text : String)
  | uri (text : String)
  | address (octets : Bytes)
  | other
  deriving DecidableEq

def readExtension (bs : Bytes) : Option (Extension × Bytes) := do
  let (content, rest) ← Der.sequence bs
  let (id, content) ← Der.objectId content
  let content := match Der.readTagged Der.booleanTag content with
    | some (flag, after) => if flag.length = 1 then after else content
    | none => content
  let (value, _) ← Der.readTagged Der.octetStringTag content
  return (⟨id, value⟩, rest)

def readExtensions (bs : Bytes) : Option (List Extension × Bytes) := do
  let (content, rest) ← Der.sequence bs
  let (extensions, left) := Der.many readExtension content.length content
  if left ≠ [] then none
  return (extensions, rest)

def generalName? (e : Der.Element) : Option GeneralName :=
  if e.cls ≠ 2 then none
  else match e.tag with
    | 0 => (Der.objectId e.content).map fun _ => .other
    | 1 => (Utf8.text? e.content).map .email
    | 2 => (Utf8.text? e.content).map .dns
    | 3 => some .other
    | 4 => (readName e.content).bind fun (_, rest) => if rest.isEmpty then some .other else none
    | 5 => some .other
    | 6 => (Utf8.text? e.content).map .uri
    | 7 => some (.address e.content)
    | 8 => some .other
    | _ => none

def generalNames? : (fuel : Nat) → Bytes → Option (List GeneralName)
  | 0, bs => if bs.isEmpty then some [] else none
  | fuel + 1, bs =>
    if bs.isEmpty then some []
    else do
      let (e, rest) ← Der.read bs
      let name ← generalName? e
      let names ← generalNames? fuel rest
      return name :: names

def Extension.alternativeNames? (x : Extension) : Option (List GeneralName) :=
  if x.id = alternativeNamesId then do
    let (content, _) ← Der.sequence x.value
    generalNames? content.length content
  else none

end ClusterSurvey.Certificate
