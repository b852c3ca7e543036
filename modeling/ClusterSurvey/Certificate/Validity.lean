import ClusterSurvey.Certificate.Der
import ClusterSurvey.Time.Instant

/-!
The times of a certificate. A time with a two-digit year lies in the years 1950 to 2049 and has
seconds; one with a four-digit year may leave out minutes and seconds and may have a fraction. Both
end with `Z`.
-/
namespace ClusterSurvey.Certificate

structure Validity where
  notBefore : Instant
  notAfter : Instant
  deriving DecidableEq

def twoDigits (a b : UInt8) : Option Nat :=
  if 48 ≤ a ∧ a ≤ 57 ∧ 48 ≤ b ∧ b ≤ 57 then some ((a.toNat - 48) * 10 + (b.toNat - 48)) else none

def pairs : (count : Nat) → Bytes → List Nat × Bytes
  | 0, bs => ([], bs)
  | count + 1, a :: b :: bs =>
    match twoDigits a b with
    | some n =>
      let (ns, rest) := pairs count bs
      (n :: ns, rest)
    | none => ([], a :: b :: bs)
  | _ + 1, bs => ([], bs)

def instant? (year month day hour minute second : Nat) : Option Instant := do
  let date ← Date.of? year month day
  if 24 ≤ hour ∨ 60 ≤ minute ∨ 60 ≤ second then none
  return .ofSeconds (date.toDays * Instant.secondsPerDay + hour * 3600 + minute * 60 + second)

def shortTime? (bs : Bytes) : Option Instant :=
  match pairs 6 bs with
  | ([y, mo, d, h, mi, s], [90]) => instant? (if 50 ≤ y then 1900 + y else 2000 + y) mo d h mi s
  | _ => none

def longTime? (bs : Bytes) : Option Instant :=
  let fraction : Bytes → Bool := fun rest => match rest with
    | [90] => true
    | 46 :: ds => ds.getLast? = some 90 && 2 ≤ ds.length && ds.dropLast.all fun b =>
        48 ≤ b && b ≤ 57
    | _ => false
  match pairs 7 bs with
  | ([c, y, mo, d, h, mi, s], rest) =>
      if fraction rest then instant? (c * 100 + y) mo d h mi s else none
  | ([c, y, mo, d, h, mi], [90]) => instant? (c * 100 + y) mo d h mi 0
  | ([c, y, mo, d, h], [90]) => instant? (c * 100 + y) mo d h 0 0
  | _ => none

def readTime (bs : Bytes) : Option (Instant × Bytes) := do
  let (e, rest) ← Der.read bs
  let t ← if e.tag = Der.utcTimeTag then shortTime? e.content
    else if e.tag = Der.generalizedTimeTag then longTime? e.content
    else none
  return (t, rest)

def readValidity (bs : Bytes) : Option (Validity × Bytes) := do
  let (content, rest) ← Der.sequence bs
  let (notBefore, content) ← readTime content
  let (notAfter, _) ← readTime content
  return (⟨notBefore, notAfter⟩, rest)

end ClusterSurvey.Certificate
