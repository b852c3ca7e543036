import ClusterSurvey.Bytes.Basic

/-!
Base64. `encode` writes the padded form over the standard alphabet and `encodeUrl` the unpadded form
over the one that is safe in addresses. `decode` accepts exactly the canonical padded form and says
where another input fails; `decodeGroups?` also lets padded groups be followed by more.
-/
namespace ClusterSurvey.Base64

def standard : List Char :=
  "ABCDEFGHIJKLMNOPQRSTUVWXYZabcdefghijklmnopqrstuvwxyz0123456789+/".toList

def urlSafe : List Char :=
  "ABCDEFGHIJKLMNOPQRSTUVWXYZabcdefghijklmnopqrstuvwxyz0123456789-_".toList

def symbol (alphabet : List Char) (n : Nat) : Char := alphabet.getD (n % 64) 'A'

def encodeWith (alphabet : List Char) (padding : List Char) : Bytes → List Char
  | a :: b :: c :: rest =>
    let n := a.toNat * 65536 + b.toNat * 256 + c.toNat
    symbol alphabet (n / 262144) :: symbol alphabet (n / 4096) :: symbol alphabet (n / 64)
      :: symbol alphabet n :: encodeWith alphabet padding rest
  | [a, b] =>
    let n := a.toNat * 1024 + b.toNat * 4
    [symbol alphabet (n / 4096), symbol alphabet (n / 64), symbol alphabet n] ++ padding
  | [a] =>
    let n := a.toNat * 16
    [symbol alphabet (n / 64), symbol alphabet n] ++ padding ++ padding
  | [] => []

def encode (bs : Bytes) : String := String.ofList (encodeWith standard ['='] bs)

def encodeUrl (bs : Bytes) : String := String.ofList (encodeWith urlSafe [] bs)

def value? (b : UInt8) : Option Nat :=
  if 65 ≤ b ∧ b ≤ 90 then some (b.toNat - 65)
  else if 97 ≤ b ∧ b ≤ 122 then some (b.toNat - 71)
  else if 48 ≤ b ∧ b ≤ 57 then some (b.toNat + 4)
  else if b == 43 then some 62
  else if b == 47 then some 63
  else none

/-- Why a text is not canonical padded base64. Offsets count bytes from 0. -/
inductive DecodeError where
  | invalidSymbol (symbol : UInt8) (offset : Nat)
  | invalidLength (length : Nat)
  | invalidLastSymbol (symbol : UInt8) (offset : Nat)
  | invalidPadding
  deriving DecidableEq, Repr

def DecodeError.message : DecodeError → String
  | .invalidSymbol b o => s!"Invalid symbol {b.toNat}, offset {o}."
  | .invalidLength n => s!"Invalid input length: {n}"
  | .invalidLastSymbol b o => s!"Invalid last symbol {b.toNat}, offset {o}."
  | .invalidPadding => "Invalid padding"

def pad : UInt8 := 61

def values (offset : Nat) : Bytes → Except DecodeError (List Nat)
  | [] => .ok []
  | b :: bs =>
    match value? b with
    | none => .error (.invalidSymbol b offset)
    | some v => (values (offset + 1) bs).map (v :: ·)

/-- The bytes of complete groups of four symbol values; values beyond the last complete group are
dropped. -/
def ofValues : List Nat → Bytes
  | a :: b :: c :: d :: rest =>
    let n := a * 262144 + b * 4096 + c * 64 + d
    UInt8.ofNat (n / 65536) :: UInt8.ofNat (n / 256) :: UInt8.ofNat n :: ofValues rest
  | _ => []

/-- The last group, which stands at `offset` and has at most four symbols: two to four values and
the padding that completes them, with no bit set that the bytes do not use. -/
def decodeLast (offset : Nat) (group : Bytes) : Except DecodeError Bytes := do
  let symbols := group.takeWhile (· != pad)
  let rest := group.drop symbols.length
  let vs ← values offset symbols
  if rest.isEmpty = false ∧ symbols.length < 2 then
    throw (.invalidSymbol pad (offset + symbols.length))
  if rest.any (· != pad) then
    throw (.invalidSymbol pad (offset + symbols.length))
  if symbols.length < 2 then
    throw (.invalidLength (offset + symbols.length))
  if group.length % 4 ≠ 0 then
    throw .invalidPadding
  let last := symbols.getLastD 0
  match vs with
  | [a, b, c, d] => return ofValues [a, b, c, d]
  | [a, b, c] =>
    if c % 4 ≠ 0 then throw (.invalidLastSymbol last (offset + 2))
    return (ofValues [a, b, c, 0]).take 2
  | [a, b] =>
    if b % 16 ≠ 0 then throw (.invalidLastSymbol last (offset + 1))
    return (ofValues [a, b, 0, 0]).take 1
  | _ => throw .invalidPadding

/-- The bytes of canonical padded base64. All groups but the last hold no padding. A single symbol
left over at the end is looked at first when it is no symbol of the alphabet. -/
def decode (text : Bytes) : Except DecodeError Bytes := do
  if text.isEmpty then
    return []
  let left := text.length % 4
  let last := text.getLastD 0
  if left = 1 ∧ last ≠ pad ∧ value? last = none then
    throw (.invalidSymbol last (text.length - 1))
  let front := text.length - (if left = 0 then 4 else left)
  let vs ← values 0 (text.take front)
  let tail ← decodeLast front (text.drop front)
  return ofValues vs ++ tail

def decodeGroup? (a b c d : UInt8) : Option Bytes :=
  if c = pad then
    if d = pad then
      match value? a, value? b with
      | some x, some y => if y % 16 = 0 then some ((ofValues [x, y, 0, 0]).take 1) else none
      | _, _ => none
    else none
  else if d = pad then
    match value? a, value? b, value? c with
    | some x, some y, some z => if z % 4 = 0 then some ((ofValues [x, y, z, 0]).take 2) else none
    | _, _, _ => none
  else
    match value? a, value? b, value? c, value? d with
    | some x, some y, some z, some w => some (ofValues [x, y, z, w])
    | _, _, _, _ => none

def decodeGroups? : Bytes → Option Bytes
  | [] => some []
  | a :: b :: c :: d :: rest =>
    match decodeGroup? a b c d, decodeGroups? rest with
    | some front, some tail => some (front ++ tail)
    | _, _ => none
  | _ => none

end ClusterSurvey.Base64
