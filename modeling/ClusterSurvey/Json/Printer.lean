import ClusterSurvey.Json.Basic
import ClusterSurvey.Decimal.Shortest
import ClusterSurvey.Bytes.Hex

/-!
The compact text of a JSON value. Strings escape the quote, the backslash and control characters
only, the members of an object keep their order, and nothing stands between tokens.
-/
namespace ClusterSurvey.Json

/-- Numbers are positional while the first digit stands at a place from -5 to 15. -/
def numberFormat : Shortest.Format := ⟨-5, 15⟩

def escape (c : Char) : List Char :=
  if c = '"' then ['\\', '"']
  else if c = '\\' then ['\\', '\\']
  else if c.toNat < 0x20 then
    if c.toNat = 8 then ['\\', 'b']
    else if c.toNat = 9 then ['\\', 't']
    else if c.toNat = 10 then ['\\', 'n']
    else if c.toNat = 12 then ['\\', 'f']
    else if c.toNat = 13 then ['\\', 'r']
    else ['\\', 'u', '0', '0', Hex.digit (c.toNat / 16), Hex.digit c.toNat]
  else [c]

def quote (s : String) : List Char := '"' :: s.toList.flatMap escape ++ ['"']

def whole (n : Int) : List Char :=
  if n < 0 then '-' :: Shortest.digits n.natAbs else Shortest.digits n.natAbs

def commaSeparated : List (List Char) → List Char
  | [] => []
  | [t] => t
  | t :: rest => t ++ ',' :: commaSeparated rest

/-- A double precision number; one that is not finite has no JSON text and is written as null. -/
def realText (x : Binary64) : List Char :=
  if x.isFinite then numberFormat.render x else ['n', 'u', 'l', 'l']

mutual

def chars : Json → List Char
  | .null => ['n', 'u', 'l', 'l']
  | .bool true => ['t', 'r', 'u', 'e']
  | .bool false => ['f', 'a', 'l', 's', 'e']
  | .int n => whole n
  | .real x => realText x
  | .str s => quote s
  | .arr items => '[' :: commaSeparated (itemChars items) ++ [']']
  | .obj members => '\x7b' :: commaSeparated (memberChars members) ++ ['\x7d']

def itemChars : List Json → List (List Char)
  | [] => []
  | v :: rest => chars v :: itemChars rest

def memberChars : List (String × Json) → List (List Char)
  | [] => []
  | (k, v) :: rest => (quote k ++ ':' :: chars v) :: memberChars rest

end

def render (v : Json) : String := String.ofList (chars v)

end ClusterSurvey.Json
