import ClusterSurvey.Proofs.Bytes.Base64
import ClusterSurvey.Proofs.Redaction.Sensitive
import ClusterSurvey.Redaction.SigningRequest

/-!
What the features of signing requests tell. Whatever the readers make of the bytes, every text of a
name or an address is masked before it gets into the features; and requests that differ only in what
the masks hide have the same features.
-/
namespace ClusterSurvey.Redaction

open Certificate

/-- Texts of which nothing but the length is left. -/
def Blinded (s : String) : Prop := ∀ c ∈ s.toList, c = 'x'

/-- Texts of which nothing but the length and the marks of an address is left. -/
def Outlined (s : String) : Prop := ∀ c ∈ s.toList, c ∈ ['x', '.', '-', '/', ':']

theorem blinded_maskText (s : String) : Blinded (maskText s) := by
  intro c member
  rw [maskText, String.toList_ofList] at member
  exact List.eq_of_mem_replicate member

theorem outlined_maskAddress (s : String) : Outlined (maskAddress s) := by
  intro c member
  rw [maskAddress, String.toList_ofList] at member
  obtain ⟨d, _, rfl⟩ := List.mem_map.mp member
  by_cases mark : isAddressMark d = true
  · rw [if_pos mark]
    simp only [isAddressMark, Bool.or_eq_true, decide_eq_true_eq] at mark
    rcases mark with ((rfl | rfl) | rfl) | rfl <;> decide
  · rw [if_neg mark]
    decide

theorem map_apply_eq {mask : Mask} {a b : Option String} (alike : Option.Rel mask.Alike a b) :
    a.map mask.apply = b.map mask.apply := by
  cases alike with
  | none => rfl
  | some same => exact congrArg some (Mask.apply_eq same)

section Parts

variable {α κ : Type} [DecidableEq κ] (mask : Mask) (kind : α → κ) (text? : α → Option String)

def maskedOf (k : κ) (parts : List α) : List String :=
  parts.filterMap fun a => if kind a = k then (text? a).map mask.apply else none

def AlikeParts (a b : α) : Prop := kind a = kind b ∧ Option.Rel mask.Alike (text? a) (text? b)

variable {mask kind text?} {k : κ} {parts others : List α}

theorem masked_of_mem {s : String} (member : s ∈ maskedOf mask kind text? k parts) :
    ∃ t, s = mask.apply t := by
  obtain ⟨a, _, found⟩ := List.mem_filterMap.mp member
  split at found
  · obtain ⟨t, _, rfl⟩ := Option.map_eq_some_iff.mp found
    exact ⟨t, rfl⟩
  · cases found

theorem maskedOf_eq (alike : List.Forall₂ (AlikeParts mask kind text?) parts others) :
    maskedOf mask kind text? k parts = maskedOf mask kind text? k others := by
  unfold maskedOf
  induction alike with
  | nil => rfl
  | cons first _ ih =>
      rw [List.filterMap_cons, List.filterMap_cons, first.1, map_apply_eq first.2, ih]

end Parts

/-! Subjects and issuers. -/

def MaskedName.texts (n : MaskedName) : List String :=
  n.country ++ n.organization ++ n.organizationalUnit ++ n.locality ++ n.province ++ n.streetAddress
    ++ n.postalCode ++
    [n.serialNumber, n.commonName]

/-- Attributes of one type. Both are texts, with as many bytes, or neither is one. -/
def AlikeAttributes : Attribute → Attribute → Prop :=
  AlikeParts .text Attribute.type Attribute.text?

theorem maskedValues_eq_maskedOf (type : String) (name : Name) :
    maskedValues type name =
      maskedOf .text (fun a => Der.idText a.type) Attribute.text? type name := rfl

theorem blinded_maskedValues (type : String) (name : Name) :
    ∀ s ∈ maskedValues type name, Blinded s := by
  intro s member
  rw [maskedValues_eq_maskedOf] at member
  obtain ⟨t, rfl⟩ := masked_of_mem member
  exact blinded_maskText t

theorem blinded_last {texts : List String} (all : ∀ s ∈ texts, Blinded s) :
    Blinded (texts.getLastD "") := by
  rw [List.getLastD_eq_getLast?]
  cases last : texts.getLast? with
  | none => exact fun c member => absurd member List.not_mem_nil
  | some s => exact all s (List.mem_of_getLast? last)

theorem blinded_maskName (name : Name) : ∀ s ∈ (maskName name).texts, Blinded s := by
  have values := fun type => blinded_maskedValues type name
  simp only [MaskedName.texts, maskName, List.forall_mem_append, List.forall_mem_cons]
  exact ⟨⟨⟨⟨⟨⟨⟨values _, values _⟩, values _⟩, values _⟩, values _⟩, values _⟩, values _⟩,
    blinded_last (values _), blinded_last (values _), List.forall_mem_nil _⟩

theorem maskedValues_eq (type : String) {p q : Name} (alike : List.Forall₂ AlikeAttributes p q) :
    maskedValues type p = maskedValues type q := by
  rw [maskedValues_eq_maskedOf, maskedValues_eq_maskedOf]
  exact maskedOf_eq (alike.imp fun a b same => ⟨congrArg Der.idText same.1, same.2⟩)

theorem maskName_eq {p q : Name} (alike : List.Forall₂ AlikeAttributes p q) :
    maskName p = maskName q := by
  simp only [maskName, maskedValues_eq _ alike]

/-! Alternative names. -/

inductive NameKind where
  | email
  | dns
  | uri
  | address
  | other
  deriving DecidableEq

def kindOf : GeneralName → NameKind
  | .email _ => .email
  | .dns _ => .dns
  | .uri _ => .uri
  | .address _ => .address
  | .other => .other

def nameText? : GeneralName → Option String
  | .email s => some s
  | .dns s => some s
  | .uri s => some s
  | .address octets => addressText? octets
  | .other => none

def AlikeNames : GeneralName → GeneralName → Prop := AlikeParts .address kindOf nameText?

def maskedNames (kind : NameKind) (names : List GeneralName) : List String :=
  maskedOf .address kindOf nameText? kind names

theorem outlined_maskedNames (kind : NameKind) (names : List GeneralName) :
    ∀ s ∈ maskedNames kind names, Outlined s := by
  intro s member
  obtain ⟨t, rfl⟩ := masked_of_mem member
  exact outlined_maskAddress t

theorem maskedNames_eq (kind : NameKind) {names others : List GeneralName}
    (alike : List.Forall₂ AlikeNames names others) :
    maskedNames kind names = maskedNames kind others :=
  maskedOf_eq alike

/-! Requests. -/

theorem requestFeatures_eq (p : Certificate.Request) : RequestFeatures.of p =
    { signatureAlgorithm := algorithmName signatureNames p.algorithm.id
      keyAlgorithm := algorithmName keyNames p.key.algorithm.id
      dnsNames := maskedNames .dns p.alternativeNames
      emailAddresses := maskedNames .email p.alternativeNames
      addresses := maskedNames .address p.alternativeNames
      uris := maskedNames .uri p.alternativeNames
      subject := maskName p.subject } := by
  dsimp only [RequestFeatures.of, maskedNames, maskedOf]
  congr <;> funext n <;> cases n <;> rfl

/-- Requests that differ only in the texts of their names, and there only in what the masks hide. -/
structure AlikeRequests (p q : Certificate.Request) : Prop where
  algorithm : p.algorithm.id = q.algorithm.id
  keyAlgorithm : p.key.algorithm.id = q.key.algorithm.id
  subject : List.Forall₂ AlikeAttributes p.subject q.subject
  names : List.Forall₂ AlikeNames p.alternativeNames q.alternativeNames

theorem requestFeatures_of_alike {p q : Certificate.Request} (alike : AlikeRequests p q) :
    RequestFeatures.of p = RequestFeatures.of q := by
  simp only [requestFeatures_eq, alike.algorithm, alike.keyAlgorithm, maskName_eq alike.subject,
    maskedNames_eq _ alike.names]

def RequestFeatures.names (f : RequestFeatures) : List String :=
  f.dnsNames ++ f.emailAddresses ++ f.addresses ++ f.uris

structure RequestFeatures.Masked (f : RequestFeatures) : Prop where
  subject : ∀ s ∈ f.subject.texts, Blinded s
  names : ∀ s ∈ f.names, Outlined s

structure CertificateFeatures.Masked (f : CertificateFeatures) : Prop where
  issuer : ∀ s ∈ f.issuer.texts, Blinded s
  subject : ∀ s ∈ f.subject.texts, Blinded s

theorem requestFeatures_masked (p : Certificate.Request) : (RequestFeatures.of p).Masked where
  subject := blinded_maskName p.subject
  names := by
    have outlined := fun kind => outlined_maskedNames kind p.alternativeNames
    simp only [requestFeatures_eq, RequestFeatures.names, List.forall_mem_append]
    exact ⟨⟨⟨outlined _, outlined _⟩, outlined _⟩, outlined _⟩

theorem certificateFeatures_masked (c : Issued) : (CertificateFeatures.of c).Masked where
  issuer := blinded_maskName c.issuer
  subject := blinded_maskName c.subject

def SigningFeatures.request? (f : SigningFeatures) : Option RequestFeatures :=
  f.spec.bind (·.request)

def SigningFeatures.certificate? (f : SigningFeatures) : Option CertificateFeatures :=
  f.status.bind (·.certificate)

namespace Readers

def requestIn? (r : Readers) (resource : Json) : Option Certificate.Request :=
  ((resource.get? "spec").bind (r.encodedBlock? "request")).bind r.request?

def issuedIn? (r : Readers) (resource : Json) : Option Issued :=
  ((resource.get? "status").bind (r.encodedBlock? "certificate")).bind r.issued?

theorem request?_eq (r : Readers) (resource : Json) : (r.signingFeatures resource).request? =
    (r.requestIn? resource).bind fun p => if r.verified p then some (.of p) else none := by
  unfold SigningFeatures.request? signingFeatures requestIn?
  simp only [Option.bind_map, Option.bind_assoc]
  refine Option.bind_congr fun spec _ => Option.bind_congr fun der _ => ?_
  unfold requestFeatures?
  refine Option.bind_congr fun p _ => ?_
  cases r.verified p <;> rfl

theorem certificate?_eq (r : Readers) (resource : Json) :
    (r.signingFeatures resource).certificate? = (r.issuedIn? resource).map .of := by
  unfold SigningFeatures.certificate? signingFeatures issuedIn?
  rw [Option.bind_map, Option.map_bind, Option.bind_assoc]
  rfl

end Readers

/-- Texts of names and addresses are masked in the features, whatever is read; a request whose
signature does not count leaves none, and requests that differ in nothing but what the masks hide
leave the same. -/
theorem signingFeatures_masked (r : Readers) :
    (∀ resource, (∀ f ∈ (r.signingFeatures resource).request?, f.Masked) ∧
      ∀ f ∈ (r.signingFeatures resource).certificate?, f.Masked) ∧
    (∀ resource p, r.requestIn? resource = some p → r.verified p = false →
      (r.signingFeatures resource).request? = none) ∧
    ∀ a b p q, r.requestIn? a = some p → r.requestIn? b = some q → r.verified p = true →
      r.verified q = true →
      AlikeRequests p q →
        ∃ f, (r.signingFeatures a).request? = some f ∧ (r.signingFeatures b).request? = some f := by
  refine ⟨fun resource => ⟨fun f found => ?_, fun f found => ?_⟩,
    fun resource p read unverified => ?_, ?_⟩
  · rw [Readers.request?_eq] at found
    obtain ⟨p, _, kept⟩ := Option.bind_eq_some_iff.mp found
    split at kept
    · cases kept
      exact requestFeatures_masked p
    · cases kept
  · rw [Readers.certificate?_eq] at found
    obtain ⟨c, _, rfl⟩ := Option.map_eq_some_iff.mp found
    exact certificateFeatures_masked c
  · rw [Readers.request?_eq, read, Option.bind_some, unverified]
    rfl
  · intro a b p q first second verified verified' alike
    refine ⟨.of p, ?_, ?_⟩
    · rw [Readers.request?_eq, first, Option.bind_some, if_pos verified]
    · rw [Readers.request?_eq, second, Option.bind_some, if_pos verified',
        requestFeatures_of_alike alike]

def asking (lines : List String) : Json :=
  .obj [("spec",
    .obj [("request", .str (Base64.encode (lines.flatMap fun l => Bytes.ofString l ++ [10])))])]

theorem requestIn_asking (lines : List String) : Readers.standard.requestIn? (asking lines) =
    (Pem.firstBlock? (lines.flatMap fun l => Bytes.ofString l ++ [10])).bind fun block =>
      Certificate.Request.ofDer? block.contents := by
  have encoded : Readers.standard.requestIn? (asking lines) =
      ((Base64.decode (Bytes.ofString
          (Base64.encode (lines.flatMap fun l => Bytes.ofString l ++ [10])))).toOption.bind
        Readers.standard.block?).bind Certificate.Request.ofDer? := rfl
  rw [encoded, Base64.decode_encode]
  exact Option.bind_map ..

def workerLines : List String :=
  ["-----BEGIN CERTIFICATE REQUEST-----",
    "MIHbMIGOAgEAMCMxDjAMBgNVBAoMBU5vZGVzMREwDwYDVQQDDAh3b3JrZXItMDAq",
    "MAUGAytlcAMhAEUZVdcPW5fnDbE+GOwE93Z/Jo3htQh64fkhenS8nFz5oDgwNgYJ",
    "KoZIhvcNAQkOMSkwJzAlBgNVHREEHjAcghR3b3JrZXItMC5leGFtcGxlLmNvbYcE",
    "CgAADDAFBgMrZXADQQBAlBTphK/JiLHoOOs/mLHL/2KBzNxqHihWyydyNXjGQryS",
    "SXxWrptQ89wSh80E54TbkW936Iaxrxmad/jr1FYM",
    "-----END CERTIFICATE REQUEST-----"]

def keeperLines : List String :=
  ["-----BEGIN CERTIFICATE REQUEST-----",
    "MIHbMIGOAgEAMCMxDjAMBgNVBAoMBUhvc3RzMREwDwYDVQQDDAhrZWVwZXItMTAq",
    "MAUGAytlcAMhAPEA7sN0xc60FJFTx6widnI2+n2Ga1DKkN1F5hyEuA1voDgwNgYJ",
    "KoZIhvcNAQkOMSkwJzAlBgNVHREEHjAcghRrZWVwZXItMS5leGFtcGxlLm9yZ4cE",
    "YQECIjAFBgMrZXADQQCeQBqQ867e3le6lsUjsu2BAhruvjQPdpwCtY5yYaQe5X3b",
    "bqW5D5D3FdR5gi/2T93wURxPOQqJpfgtAhpUMewM",
    "-----END CERTIFICATE REQUEST-----"]

def forgedLines : List String := workerLines.set 5 "TXxWrptQ89wSh80E54TbkW936Iaxrxmad/jr1FYM"

def AsksFor (organization name host : String) (address : Bytes) (p : Certificate.Request) : Prop :=
  p.algorithm.id = Der.encodeId [1, 3, 101, 112] ∧
    p.key.algorithm.id = Der.encodeId [1, 3, 101, 112] ∧
    p.subject = [⟨Der.encodeId [2, 5, 4, 10], Der.utf8Tag, Bytes.ofString organization⟩,
      ⟨Der.encodeId [2, 5, 4, 3], Der.utf8Tag, Bytes.ofString name⟩] ∧
    p.alternativeNames = [.dns host, .address address]

instance (organization name host : String) (address : Bytes) (p : Certificate.Request) :
    Decidable (AsksFor organization name host address p) := inferInstanceAs (Decidable (_ ∧ _))

theorem read_of_any (lines : List String) (test : Certificate.Request → Bool)
    (passes : ((Pem.firstBlock? (lines.flatMap fun l => Bytes.ofString l ++ [10])).bind fun block =>
      Certificate.Request.ofDer? block.contents).any test = true) :
    ∃ p, Readers.standard.requestIn? (asking lines) = some p ∧ test p = true := by
  rw [← requestIn_asking] at passes
  exact (Option.any_eq_true _ _).mp passes

theorem alike_texts {type : Bytes} {s t : String} (plain : Utf8.text? (Bytes.ofString s) = some s)
    (plain' : Utf8.text? (Bytes.ofString t) = some t) (same : s.utf8ByteSize = t.utf8ByteSize) :
    AlikeAttributes ⟨type, Der.utf8Tag, Bytes.ofString s⟩ ⟨type, Der.utf8Tag,
      Bytes.ofString t⟩ := by
  refine ⟨rfl, ?_⟩
  have text : ∀ u : String, Attribute.text? ⟨type, Der.utf8Tag, Bytes.ofString u⟩ =
      Utf8.text? (Bytes.ofString u) :=
    fun u => if_pos (Or.inl rfl)
  rw [text, text, plain, plain']
  exact .some same

theorem machines_alike {p q : Certificate.Request}
    (worker : AsksFor "Nodes" "worker-0" "worker-0.example.com" [10, 0, 0, 12] p)
    (keeper : AsksFor "Hosts" "keeper-1" "keeper-1.example.org" [97, 1, 2, 34] q) :
    AlikeRequests p q := by
  obtain ⟨algorithm, key, subject, names⟩ := worker
  obtain ⟨algorithm', key', subject', names'⟩ := keeper
  refine ⟨algorithm.trans algorithm'.symm, key.trans key'.symm, ?_, ?_⟩
  · rw [subject, subject']
    exact .cons (alike_texts (by decide +kernel) (by decide +kernel) (by decide))
      (.cons (alike_texts (by decide +kernel) (by decide +kernel) (by decide)) .nil)
  · rw [names, names']
    have host : Mask.address.Alike "worker-0.example.com" "keeper-1.example.org" := by
      unfold Mask.Alike SameMarks
      decide +kernel
    have address : Mask.address.Alike "10.0.0.12" "97.1.2.34" := by
      unfold Mask.Alike SameMarks
      decide +kernel
    have text : addressText? [10, 0, 0, 12] = some "10.0.0.12" := by decide +kernel
    have text' : addressText? [97, 1, 2, 34] = some "97.1.2.34" := by decide +kernel
    refine .cons ⟨rfl, .some host⟩ (.cons ⟨rfl, ?_⟩ .nil)
    rw [nameText?, nameText?, text, text']
    exact .some address

theorem machines_masked :
    (∃ p q, Readers.standard.requestIn? (asking workerLines) = some p ∧
      Readers.standard.requestIn? (asking keeperLines) = some q ∧ p.subject ≠ q.subject ∧
        AlikeRequests p q ∧
      ∃ f, (signingFeatures (asking workerLines)).request? = some f ∧
        (signingFeatures (asking keeperLines)).request? = some f ∧ f.Masked) ∧
    (signingFeatures (asking forgedLines)).request? = none := by
  obtain ⟨masked, unsigned, same⟩ := signingFeatures_masked Readers.standard
  -- The three texts are read, and their signatures verified, by evaluation.
  obtain ⟨p, read, worker⟩ := read_of_any workerLines (fun p =>
    decide (AsksFor "Nodes" "worker-0" "worker-0.example.com" [10, 0, 0, 12] p)
      && p.verified) (by decide +kernel)
  obtain ⟨q, read', keeper⟩ := read_of_any keeperLines (fun q =>
    decide (AsksFor "Hosts" "keeper-1" "keeper-1.example.org" [97, 1, 2, 34] q)
      && q.verified) (by decide +kernel)
  obtain ⟨forged, found, unverified⟩ :=
    read_of_any forgedLines (fun p => !p.verified) (by decide +kernel)
  simp only [Bool.and_eq_true, decide_eq_true_eq, Bool.not_eq_true'] at worker keeper unverified
  have alike := machines_alike worker.1 keeper.1
  obtain ⟨f, first, second⟩ := same _ _ p q read read' worker.2 keeper.2 alike
  refine ⟨⟨p, q, read, read', ?_, alike, f, first, second, (masked _).1 f first⟩,
    unsigned _ forged found unverified⟩
  rw [worker.1.2.2.1, keeper.1.2.2.1]
  decide +kernel

end ClusterSurvey.Redaction
