import ClusterSurvey.Bytes.Base64
import ClusterSurvey.Certificate.Issued
import ClusterSurvey.Certificate.Pem
import ClusterSurvey.Record.Managed
import ClusterSurvey.Redaction.Mask
import ClusterSurvey.Signature.Verify

/-!
What is kept of a certificate signing request: the metadata, who asked for what, and of the request
and the issued certificate their algorithms, times and masked names. Only the first PEM block of
each counts, and a request whose signature does not verify leaves nothing but its metadata.
-/
namespace ClusterSurvey.Redaction

open Certificate

structure MaskedName where
  country : List String
  organization : List String
  organizationalUnit : List String
  locality : List String
  province : List String
  streetAddress : List String
  postalCode : List String
  serialNumber : String
  commonName : String
  deriving DecidableEq

structure RequestFeatures where
  signatureAlgorithm : String
  keyAlgorithm : String
  dnsNames : List String
  emailAddresses : List String
  addresses : List String
  uris : List String
  subject : MaskedName
  deriving DecidableEq

structure CertificateFeatures where
  verified : Bool
  issuer : MaskedName
  subject : MaskedName
  notBefore : String
  notAfter : String
  deriving DecidableEq

structure SpecFeatures where
  username : String
  groups : Json
  usages : Json
  request : Option RequestFeatures

structure StatusFeatures where
  conditions : Json
  certificate : Option CertificateFeatures

structure SigningFeatures where
  kind : String
  apiVersion : String
  metadata : Json
  spec : Option SpecFeatures
  status : Option StatusFeatures

def maskedValues (type : String) (name : Name) : List String :=
  name.filterMap fun a => if Der.idText a.type = type then a.text?.map maskText else none

/-- Masks a name. Of a serial number and a common name the last one counts. -/
def maskName (name : Name) : MaskedName where
  country := maskedValues "2.5.4.6" name
  organization := maskedValues "2.5.4.10" name
  organizationalUnit := maskedValues "2.5.4.11" name
  locality := maskedValues "2.5.4.7" name
  province := maskedValues "2.5.4.8" name
  streetAddress := maskedValues "2.5.4.9" name
  postalCode := maskedValues "2.5.4.17" name
  serialNumber := (maskedValues "2.5.4.5" name).getLastD ""
  commonName := (maskedValues "2.5.4.3" name).getLastD ""

def algorithmName (table : List (String × String)) (id : Bytes) : String :=
  let numbers := Der.idText id
  (table.lookup numbers).getD numbers

def signatureNames : List (String × String) :=
  [("1.2.840.113549.1.1.4", "MD5-RSA"),
    ("1.2.840.113549.1.1.5", "SHA1-RSA"),
    ("1.2.840.113549.1.1.11", "SHA256-RSA"),
    ("1.2.840.113549.1.1.12", "SHA384-RSA"),
    ("1.2.840.113549.1.1.13", "SHA512-RSA"),
    ("1.2.840.113549.1.1.10", "SHA256-RSAPSS"),
    ("1.2.840.10045.4.1", "ECDSA-SHA1"),
    ("1.2.840.10045.4.3.2", "ECDSA-SHA256"),
    ("1.2.840.10045.4.3.3", "ECDSA-SHA384"),
    ("1.2.840.10045.4.3.4", "ECDSA-SHA512"),
    ("1.3.101.112", "Ed25519")]

def keyNames : List (String × String) :=
  [("1.2.840.113549.1.1.1", "RSA"),
    ("1.2.840.10040.4.1", "DSA"),
    ("1.2.840.10045.2.1", "ECDSA"),
    ("1.3.101.112", "Ed25519")]

def pairsOf : Bytes → List Nat
  | a :: b :: rest => (a.toNat * 256 + b.toNat) :: pairsOf rest
  | _ => []

def zeroRun (groups : List Nat) : Nat := (groups.takeWhile (· = 0)).length

/-- Start and length of the first longest run of zeros among the groups from `start` on. -/
def longestZeroRun (start : Nat) : List Nat → Nat × Nat
  | [] => (start, 0)
  | g :: rest =>
    let here := zeroRun (g :: rest)
    let later := longestZeroRun (start + 1) rest
    if later.2 ≤ here then (start, here) else later

def groupsText (groups : List Nat) : String :=
  ":".intercalate (groups.map fun g => String.ofList (Nat.toDigits 16 g))

def dottedText (octets : Bytes) : String := ".".intercalate (octets.map fun b => toString b.toNat)

/-- The text of an IPv6 address: an embedded IPv4 address is dotted, and otherwise the first longest
run of at least two zero groups is left out. -/
def ipv6Text (octets : Bytes) : String :=
  let groups := pairsOf octets
  if groups.take 6 = [0, 0, 0, 0, 0, 0xFFFF] then "::ffff:" ++ dottedText (octets.drop 12)
  else
    let (start, length) := longestZeroRun 0 groups
    if 1 < length then
      groupsText (groups.take start) ++ "::" ++ groupsText (groups.drop (start + length))
    else groupsText groups

def addressText? (octets : Bytes) : Option String :=
  if octets.length = 4 then some (dottedText octets)
  else if octets.length = 16 then some (ipv6Text octets)
  else none

def RequestFeatures.of (request : Certificate.Request) : RequestFeatures :=
  let names := request.alternativeNames
  { signatureAlgorithm := algorithmName signatureNames request.algorithm.id
    keyAlgorithm := algorithmName keyNames request.key.algorithm.id
    dnsNames := names.filterMap fun n => match n with | .dns s => some (maskAddress s) | _ => none
    emailAddresses :=
      names.filterMap fun n => match n with | .email s => some (maskAddress s) | _ => none
    addresses := names.filterMap fun n =>
      match n with | .address octets => (addressText? octets).map maskAddress | _ => none
    uris := names.filterMap fun n => match n with | .uri s => some (maskAddress s) | _ => none
    subject := maskName request.subject }

/-- What is kept of an issued certificate. Without a chain of trust none counts as verified. -/
def CertificateFeatures.of (issued : Issued) : CertificateFeatures where
  verified := false
  issuer := maskName issued.issuer
  subject := maskName issued.subject
  notBefore := Rfc3339.render issued.validity.notBefore
  notAfter := Rfc3339.render issued.validity.notAfter

/-- How requests and certificates are read from bytes, and which signatures count. -/
structure Readers where
  /-- The contents of the first block of a PEM text. -/
  block? : Bytes → Option Bytes
  request? : Bytes → Option Certificate.Request
  verified : Certificate.Request → Bool
  issued? : Bytes → Option Issued

namespace Readers

def standard : Readers where
  block? pem := (Pem.firstBlock? pem).map (·.contents)
  request? := Certificate.Request.ofDer?
  verified := Certificate.Request.verified
  issued? := Issued.ofDer?

def requestFeatures? (r : Readers) (der : Bytes) : Option RequestFeatures := do
  let request ← r.request? der
  if !r.verified request then none
  return .of request

def certificateFeatures? (r : Readers) (der : Bytes) : Option CertificateFeatures :=
  (r.issued? der).map .of

def encodedBlock? (r : Readers) (key : String) (part : Json) : Option Bytes := do
  let encoded ← (part.get? key).bind Json.asString?
  let pem ← (Base64.decode (Bytes.ofString encoded)).toOption
  r.block? pem

def signingFeatures (r : Readers) (resource : Json) : SigningFeatures where
  kind := resource.stringAt ["kind"]
  apiVersion := resource.stringAt ["apiVersion"]
  metadata := ((stripManaged resource).get? "metadata").getD .null
  spec := (resource.get? "spec").map fun spec => {
    username := spec.stringAt ["username"]
    groups := (spec.get? "groups").getD .null
    usages := (spec.get? "usages").getD .null
    request := (r.encodedBlock? "request" spec).bind r.requestFeatures? }
  status := (resource.get? "status").map fun status => {
    conditions := (status.get? "conditions").getD .null
    certificate := (r.encodedBlock? "certificate" status).bind r.certificateFeatures? }

end Readers

def signingFeatures (resource : Json) : SigningFeatures := Readers.standard.signingFeatures resource

/-- Whether a request is worth a record at `now`: one without a certificate is, and one whose
certificate is not verified or does not count at that time. -/
def SigningFeatures.worthRecording (f : SigningFeatures) (now : Instant) : Bool :=
  match f.status.bind (·.certificate) with
  | none => true
  | some certificate =>
    !certificate.verified
      || (Rfc3339.parse? certificate.notBefore.toList).any (fun t => decide (now < t))
      || (Rfc3339.parse? certificate.notAfter.toList).any (fun t => decide (t < now))

def textsJson (texts : List String) : Json := .arr (texts.map .str)

def optionalJson {α : Type} (f : α → Json) : Option α → Json
  | some x => f x
  | none => .null

def MaskedName.toJson (n : MaskedName) : Json :=
  .obj [("Country", textsJson n.country), ("Organization", textsJson n.organization),
    ("OrganizationalUnit", textsJson n.organizationalUnit), ("Locality", textsJson n.locality),
    ("Province", textsJson n.province), ("StreetAddress", textsJson n.streetAddress),
    ("PostalCode", textsJson n.postalCode), ("SerialNumber", .str n.serialNumber),
    ("CommonName", .str n.commonName)]

def RequestFeatures.toJson (r : RequestFeatures) : Json :=
  .obj [("ValidSignature", .bool true), ("SignatureAlgorithm", .str r.signatureAlgorithm),
    ("PublicKeyAlgorithm", .str r.keyAlgorithm), ("DNSNames", textsJson r.dnsNames),
    ("EmailAddresses", textsJson r.emailAddresses), ("IPAddresses", textsJson r.addresses),
    ("URIs", textsJson r.uris), ("Subject", r.subject.toJson)]

def CertificateFeatures.toJson (c : CertificateFeatures) : Json :=
  .obj [("Verified", .bool c.verified), ("Issuer", c.issuer.toJson), ("Subject", c.subject.toJson),
    ("NotBefore", .str c.notBefore), ("NotAfter", .str c.notAfter)]

def SigningFeatures.toJson (f : SigningFeatures) : Json :=
  .obj [("TypeMeta", .obj (Json.textMember "kind" f.kind
      ++ Json.textMember "apiVersion" f.apiVersion)),
    ("ObjectMeta", f.metadata),
    ("Spec", optionalJson (fun (s : SpecFeatures) =>
      .obj [("Username", .str s.username), ("Groups", s.groups), ("Usages", s.usages),
        ("Request", optionalJson RequestFeatures.toJson s.request)]) f.spec),
    ("Status", optionalJson (fun (s : StatusFeatures) =>
      .obj [("Conditions", s.conditions),
        ("Cert", optionalJson CertificateFeatures.toJson s.certificate)]) f.status)]

end ClusterSurvey.Redaction
