import ClusterSurvey.Bytes.Basic

/-!
The distinguished encoding of ASN.1 values. An element is a tag, a definite length and that many
bytes; bytes after the parts that a reader asks for are left alone.
-/
namespace ClusterSurvey.Der

/-- The tag and the contents of an element. Class 0 is universal, 2 context specific. -/
structure Element where
  cls : Nat
  constructed : Bool
  tag : Nat
  content : Bytes
  deriving DecidableEq

def booleanTag : Nat := 1
def integerTag : Nat := 2
def bitStringTag : Nat := 3
def octetStringTag : Nat := 4
def objectIdTag : Nat := 6
def utf8Tag : Nat := 12
def sequenceTag : Nat := 16
def setTag : Nat := 17
def numericTag : Nat := 18
def printableTag : Nat := 19
def ia5Tag : Nat := 22
def utcTimeTag : Nat := 23
def generalizedTimeTag : Nat := 24

/-- The number of a tag that does not fit the first byte: seven bits in each of at most five
bytes. -/
def longTag : (bytes : Nat) → (acc : Nat) → Bytes → Option (Nat × Bytes)
  | _, _, [] => none
  | 0, _, _ => none
  | bytes + 1, acc, b :: bs =>
    let acc := acc * 128 + b.toNat % 128
    if b < 0x80 then some (acc, bs) else longTag bytes acc bs

def length? : Bytes → Option (Nat × Bytes)
  | [] => none
  | b :: bs =>
    if b < 0x80 then some (b.toNat, bs)
    else
      let n := b.toNat - 0x80
      if n = 0 ∨ n = 127 ∨ bs.length < n then none
      else
        let len := Bytes.toNat (bs.take n)
        if len < 18446744073709551616 then some (len, bs.drop n) else none

def read : Bytes → Option (Element × Bytes)
  | [] => none
  | b :: bs => do
    let low := b.toNat % 32
    let (tag, bs) ← if low = 31 then longTag 5 0 bs else some (low, bs)
    let (len, bs) ← length? bs
    if bs.length < len then none
    return (⟨b.toNat / 64, b.toNat / 32 % 2 = 1, tag, bs.take len⟩, bs.drop len)

def readTagged (tag : Nat) (bs : Bytes) : Option (Bytes × Bytes) := do
  let (e, rest) ← read bs
  if e.tag ≠ tag then none
  return (e.content, rest)

def sequence (bs : Bytes) : Option (Bytes × Bytes) := readTagged sequenceTag bs

def objectId (bs : Bytes) : Option (Bytes × Bytes) := readTagged objectIdTag bs

def bitString (bs : Bytes) : Option (Bytes × Bytes) := do
  let (content, rest) ← readTagged bitStringTag bs
  match content with
  | [] => none
  | unused :: data =>
    if 7 < unused then none
    if data.isEmpty ∧ unused ≠ 0 then none
    if (data.getLastD 0).toNat % Nat.pow 2 unused.toNat ≠ 0 then none
    return (data, rest)

/-- Elements as long as they can be read by `item`, and the bytes after them. -/
def many {α : Type} (item : Bytes → Option (α × Bytes)) : (fuel : Nat) → Bytes → List α × Bytes
  | 0, bs => ([], bs)
  | fuel + 1, bs =>
    match item bs with
    | none => ([], bs)
    | some (x, rest) =>
      let (xs, last) := many item fuel rest
      (x :: xs, last)

def encodeId : List Nat → Bytes
  | a :: b :: rest => UInt8.ofNat (a * 40 + b) :: rest.flatMap fun n =>
      if n < 128 then [UInt8.ofNat n]
      else if n < 16384 then [UInt8.ofNat (n / 128 + 128), UInt8.ofNat (n % 128)]
      else [UInt8.ofNat (n / 16384 + 128), UInt8.ofNat (n / 128 % 128 + 128), UInt8.ofNat (n % 128)]
  | _ => []

def idNumbers : (acc : Nat) → Bytes → List Nat
  | _, [] => []
  | acc, b :: bs =>
    let acc := acc * 128 + b.toNat % 128
    if b < 0x80 then acc :: idNumbers 0 bs else idNumbers acc bs

def idText (id : Bytes) : String :=
  match id with
  | [] => ""
  | b :: bs =>
    let numbers := b.toNat / 40 :: b.toNat % 40 :: idNumbers 0 bs
    ".".intercalate (numbers.map toString)

end ClusterSurvey.Der
