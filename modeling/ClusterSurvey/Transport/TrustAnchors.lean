import ClusterSurvey.Certificate.Der
import ClusterSurvey.Certificate.Pem

/-!
The certificates that a connection may rely on, given as a file of PEM blocks. Lines outside of
blocks do not count; a block that does not end, or a certificate that cannot be relied on, makes the
whole file unusable.
-/
namespace ClusterSurvey.Transport

namespace TrustAnchors

def isLineEnd (b : UInt8) : Bool := b = 10 || b = 13 || b = 32

def trimLine (line : Bytes) : Bytes := (line.reverse.dropWhile isLineEnd).reverse

def dash : UInt8 := 45

/-- The label of the line that opens a block: exactly five dashes come behind it. -/
def label? (line : Bytes) : Option Bytes :=
  let back := (trimLine line).reverse
  let dashes := (back.takeWhile (· = dash)).length
  if dashes = 5 then some ((back.drop 5).reverse.drop 11) else none

/-- The labels and contents of the blocks of some lines. `opened` is the label of the block that is
open. -/
def blocks? : (opened : Option Bytes) → (body : Bytes) → List Bytes → Option (List (Bytes × Bytes))
  | none, _, [] => some []
  | some _, _, [] => none
  | opened, body, line :: rest =>
    if line.startsWith (Bytes.ofString "-----BEGIN ") then
      match label? line with
      | some label => blocks? (some label) body rest
      | none => none
    else
      match opened with
      | none => blocks? none body rest
      | some label =>
        if line.startsWith (Bytes.ofString "-----END " ++ label ++ List.replicate 5 dash) then
          match Base64.decode body with
          | .ok content => (blocks? none [] rest).map ((label, content) :: ·)
          | .error _ => none
        else blocks? opened (body ++ trimLine line) rest

/-- The number of bytes of the least length that needs `n` bytes to be written. -/
def leastLength : Nat → Nat
  | 1 => 128
  | n => Nat.pow 256 (n - 1)

def element (tag : UInt8) (bs : Bytes) : Option (Bytes × Bytes) :=
  match bs with
  | [] => none
  | b :: more => do
    if b ≠ tag then none
    let (e, rest) ← Der.read bs
    match more with
    | [] => none
    | l :: _ =>
        if 0x80 ≤ l ∧ e.content.length < leastLength (l.toNat - 0x80) then none
          else return (e.content, rest)

/-- The first bytes of elements: a sequence, an integer, a bit string, a truth value, a byte string,
an identifier, and the parts with the version and the extensions. -/
def sequenceByte : UInt8 := 0x30
def integerByte : UInt8 := 0x02
def bitsByte : UInt8 := 0x03
def truthByte : UInt8 := 0x01
def octetsByte : UInt8 := 0x04
def identifierByte : UInt8 := 0x06
def versionByte : UInt8 := 0xA0
def extensionsByte : UInt8 := 0xA3

def skip : List UInt8 → Bytes → Option Bytes
  | [], bs => some bs
  | tag :: rest, bs => do
    let (_, bs) ← element tag bs
    skip rest bs

def knownExtensions : List UInt8 := [15, 17, 19, 30, 31, 37]

def isKnown : Bytes → Bool
  | [0x55, 0x1D, n] => knownExtensions.contains n
  | _ => false

def extension? (content : Bytes) : Option Bytes := do
  let (id, rest) ← element identifierByte content
  let (critical, rest) ← match element truthByte rest with
    | some (value, rest) =>
        if value = [255] ∨ value = [0] then some (value == [255], rest) else none
    | none => some (false, rest)
  let (_, rest) ← element octetsByte rest
  if rest ≠ [] then none
  if critical && !isKnown id then none else return if isKnown id then id else []

/-- The identifiers of the known ones of some extensions. -/
def extensions? : (fuel : Nat) → Bytes → Option (List Bytes)
  | _, [] => some []
  | 0, _ => none
  | fuel + 1, bs => do
    let (content, rest) ← element sequenceByte bs
    let id ← extension? content
    let others ← extensions? fuel rest
    return if id.isEmpty then others else id :: others

def areExtensions (bs : Bytes) : Bool :=
  bs.isEmpty || (do
    let (content, rest) ← element extensionsByte bs
    let (list, more) ← element sequenceByte content
    if rest ≠ [] ∨ more ≠ [] then none
    let ids ← extensions? bs.length list
    if ids.eraseDups.length = ids.length then some () else none).isSome

def isThird (signed algorithm : Bytes) : Bool :=
  (do
    let rest ← skip [integerByte] signed
    let (own, rest) ← element sequenceByte rest
    if own ≠ algorithm then none
    let rest ← skip [sequenceByte, sequenceByte, sequenceByte, sequenceByte] rest
    if areExtensions rest then some () else none).isSome

def isFirst (signed : Bytes) : Bool :=
  skip [integerByte, sequenceByte, sequenceByte, sequenceByte, sequenceByte, sequenceByte] signed ==
    some []

def isAnchor (der : Bytes) : Bool :=
  (do
    let (content, rest) ← element sequenceByte der
    if rest ≠ [] then none
    let (signed, content) ← element sequenceByte content
    let (algorithm, content) ← element sequenceByte content
    let (bits, content) ← element bitsByte content
    if content ≠ [] ∨ bits.head? ≠ some 0 then none
    match element versionByte signed with
    | some (version, rest) =>
      if element integerByte version = some ([2], []) ∧ isThird rest algorithm then
        some () else none
    | none => if isFirst signed then some () else none).isSome

def areUsable (file : Bytes) : Bool :=
  match blocks? none [] (Pem.lines file) with
  | some blocks => blocks.all fun (label, content) =>
      label ≠ Bytes.ofString "CERTIFICATE" || isAnchor content
  | none => false

end TrustAnchors

end ClusterSurvey.Transport
