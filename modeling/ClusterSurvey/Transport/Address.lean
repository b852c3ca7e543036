import ClusterSurvey.Transport.Host

/-!
The addresses of web resources. Reading one brings it into its only form: steps upwards in the path
are followed, characters that cannot stand as they are get escaped, and the usual port is left out.
Names and passwords in front of the host are dropped.
-/
namespace ClusterSurvey.Transport

structure Address where
  secure : Bool
  host : List Char
  port : Option Nat
  path : List Char
  query : Option (List Char)
  fragment : Option (List Char)
  deriving DecidableEq, Repr

namespace Address

def isSlash (c : Char) : Bool := c = '/' || c = '\\'

def endsAuthority (c : Char) : Bool := isSlash c || c = '?' || c = '#'

def clean (cs : List Char) : List Char :=
  let isEdge (c : Char) : Bool := c.toNat ≤ 0x20
  (((cs.dropWhile isEdge).reverse.dropWhile isEdge).reverse).filter fun c =>
    !(['\t', '\n', '\r'].contains c)

def behindScheme? (scheme : String) (cs : List Char) : Option (List Char) :=
  let n := scheme.length
  if (cs.take n).map Char.toLower = scheme.toList then some (cs.drop n) else none

def scheme? (cs : List Char) : Option (Bool × List Char) :=
  ((behindScheme? "https:" cs).map (true, ·)).or ((behindScheme? "http:" cs).map (false, ·))

def usualPort (secure : Bool) : Nat := if secure then 443 else 80

/-- The host and what comes behind it; colons in brackets belong to the host. -/
def splitHost : (inside : Bool) → List Char → List Char × List Char
  | _, [] => ([], [])
  | inside, c :: cs =>
    if c = ':' ∧ !inside then ([], c :: cs)
    else
      let inside := if c = '[' then true else if c = ']' then false else inside
      let (host, rest) := splitHost inside cs
      (c :: host, rest)

def port? (secure : Bool) : List Char → Option (Option Nat)
  | ':' :: ds =>
    if ds.isEmpty then some none
    else do
      if !ds.all (fun c => '0' ≤ c && c ≤ '9') then none
      let port ← Hex.number? 10 ds
      if 65535 < port then none
      return if port = usualPort secure then none else some port
  | _ => some none

inductive Step where
  | stay
  | up
  | down (segment : List Char)

def stepOf (segment : List Char) : Step :=
  let points := String.ofList (segment.map Char.toLower)
  if ["..", ".%2e", "%2e.", "%2e%2e"].contains points then .up
  else if [".", "%2e"].contains points then .stay
  else .down (Percent.encode Percent.inPath segment)

/-- The segments of a path after its steps were followed, the last one first. A step at the end
leaves an empty segment. -/
def follow : (above : List (List Char)) → List (List Char) → List (List Char)
  | above, [] => above
  | above, s :: rest =>
    let ended (above : List (List Char)) := if rest.isEmpty then [] :: above else above
    match stepOf s with
    | .up => follow (ended (above.drop 1)) rest
    | .stay => follow (ended above) rest
    | .down segment => follow (segment :: above) rest

def segments (cs : List Char) : List (List Char) :=
  Text.splitAt '/' (cs.map fun c => if c = '\\' then '/' else c)

def pathOf (cs : List Char) : List Char :=
  ((follow [] (segments (cs.drop 1))).reverse).flatMap ('/' :: ·)

def behind? (mark : Char) (cs : List Char) : Option (List Char) :=
  if cs.contains mark then some ((cs.dropWhile (· ≠ mark)).drop 1) else none

def parse? (text : String) : Option Address := do
  let (secure, rest) ← scheme? (clean text.toList)
  let rest := rest.dropWhile isSlash
  let authority := rest.takeWhile (!endsAuthority ·)
  let rest := rest.drop authority.length
  let place := (authority.reverse.takeWhile (· ≠ '@')).reverse
  let (host, port) := splitHost false place
  let host ← Host.parse? host
  let port ← port? secure port
  let (front, fragment) := (rest.takeWhile (· ≠ '#'), behind? '#' rest)
  return {
    secure
    host := host.text
    port
    path := pathOf (front.takeWhile (· ≠ '?'))
    query := (behind? '?' front).map (Percent.encode Percent.inQuery)
    fragment := fragment.map (Percent.encode Percent.inFragment) }

def target (a : Address) : List Char :=
  a.path ++ (match a.query with
    | some q => '?' :: q
    | none => [])

def text (a : Address) : List Char :=
  (if a.secure then "https://" else "http://").toList ++ a.host
    ++ (match a.port with
      | some p => ':' :: Nat.toDigits 10 p
      | none => [])
    ++ a.target
    ++ (match a.fragment with
      | some f => '#' :: f
      | none => [])

def withQuery (pairs : List (String × String)) (a : Address) : Address :=
  let old := a.query.getD []
  let added := Percent.form pairs
  let query := if old.isEmpty then added else if added.isEmpty then old else old ++ '&' :: added
  { a with query := if query.isEmpty then none else some query }

def maxSize : Nat := 65534

def isSendable (a : Address) : Bool :=
  (Bytes.ofChars a.text).length ≤ maxSize && !a.host.any fun c =>
    ['"', '\x60', '\x7b', '\x7d'].contains c

end Address

end ClusterSurvey.Transport
